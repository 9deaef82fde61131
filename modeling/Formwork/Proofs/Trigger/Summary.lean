import Mathlib.Data.List.Basic
import Formwork.Proofs.Form.Scan
import Formwork.Proofs.Text.Match
import Formwork.Proofs.Text.Run
import Formwork.Proofs.Text.Word
import Formwork.Proofs.Trigger.Simple
import Formwork.Trigger.Rule

/-!
# Rules and the summary

The rules of a program are those that it shows, or one custom rule when it shows none. The summary
names the kinds of rules that a program shows, or says what the custom rule says. Before that it
looks whether the program begins as one that passes a key on; what follows is not looked at, so that
it may say so of a program that has rules.
-/
namespace Formwork.Trigger

open Text.Match

/-! ## The items that are set -/

/-- Two names with a point between them. -/
def IsDotted (item : List Char) : Prop :=
  ∃ first second, item = first ++ '.' :: second ∧ second ≠ [] ∧
    ∀ c ∈ second, Text.isWordChar c = true

theorem answers_dottedName {α : Type} {P : α → Prop} {k : List Char → Rest α}
    (h : ∀ item, IsDotted item → Answers (k item) P) : Answers (dottedName k) P := by
  unfold dottedName name
  refine answers_many1 fun first _ _ => Answers.one ?_
  exact answers_many1 fun second hne hword => h _ ⟨first, second, rfl, hne, hword⟩

theorem answers_populateMatch : Answers populateMatch (fun read => IsDotted read.1) := by
  refine Answers.one (answers_dottedName fun item hitem => ?_)
  refine answers_many fun _ _ => Answers.one (Answers.one (answers_many fun _ _ => ?_))
  have hcall : Answers (name fun _ => blanks <| sign '(' <| found item)
      (fun read => IsDotted read.1) := by
    refine answers_many1 fun _ _ _ => answers_many fun _ _ => Answers.one fun cs a hread => ?_
    obtain rfl := Option.some.inj hread
    exact hitem
  intro cs a hread
  dsimp only at hread
  split at hread
  · cases hread
  · exact hcall cs a hread

theorem lastPart_dotted {first second : List Char} (h : ∀ c ∈ second, Text.isWordChar c = true) :
    lastPart (String.ofList (first ++ '.' :: second)) = String.ofList second := by
  have hnot : ∀ c ∈ second.reverse, (c != '.') = true := by
    intro c hc
    rw [bne_iff_ne]
    rintro rfl
    exact absurd (h '.' (List.mem_reverse.mp hc)) (by decide)
  have hpoint : ('.' != '.') = false := by decide
  have hreverse : (first ++ '.' :: second).reverse = second.reverse ++ '.' :: first.reverse := by
    simp
  rw [lastPart, String.toList_ofList, hreverse, Form.takeWhile_append hnot hpoint,
    List.reverse_reverse]

/-! ## Rules -/

/-- What holds of the rules that programs show: none is a custom rule, and a rule that sets an item
has this item. -/
structure AreShown (rules : List Rule) : Prop where
  kind_ne : ∀ r ∈ rules, r.kind ≠ .custom
  dotted : ∀ r ∈ rules, r.kind = .autoPopulate →
    ∃ item, IsDotted item ∧ r.affected = [String.ofList item]

namespace AreShown

variable {rules more : List Rule}

theorem append (h : AreShown rules) (hmore : AreShown more) : AreShown (rules ++ more) where
  kind_ne := List.forall_mem_append.mpr ⟨h.kind_ne, hmore.kind_ne⟩
  dotted := List.forall_mem_append.mpr ⟨h.dotted, hmore.dotted⟩

theorem of_kind {k : RuleKind} (hcustom : k ≠ .custom) (hpopulate : k ≠ .autoPopulate)
    (h : ∀ r ∈ rules, r.kind = k) : AreShown rules where
  kind_ne := fun r hr => (h r hr) ▸ hcustom
  dotted := fun r hr hkind => absurd ((h r hr).symm.trans hkind) hpopulate

/-- A rule that is shown under a condition, of a kind with nothing to ask of it. -/
theorem of_condition (kind : RuleKind) (hcustom : kind ≠ .custom) (hpopulate : kind ≠ .autoPopulate)
    (condition : Bool) (description : String) (affected : List String) :
    AreShown (if condition then [{ kind, description, affected }] else []) := by
  refine .of_kind hcustom hpopulate fun r hr => ?_
  split at hr
  · rw [List.mem_singleton.mp hr]
  · cases hr

theorem populate (cs : List Char) :
    AreShown ((findAll (fun _ => populateMatch) cs).map (fun m =>
      { kind := .autoPopulate, description := "自動產生 " ++ String.ofList m.value ++ " 的值",
        affected := [String.ofList m.value] })) where
  kind_ne := List.forall_mem_map.mpr fun _ _ => nofun
  dotted := by
    refine List.forall_mem_map.mpr fun m hm _ => ?_
    obtain ⟨_, cs, rest, hread⟩ := exists_of_mem_findFrom hm
    exact ⟨m.value, answers_populateMatch cs _ hread, rfl⟩

theorem calculate (cs : List Char) :
    AreShown ((findAll (fun _ => calculationMatch) cs).map (fun m =>
      { kind := .calculation, description := "計算 " ++ String.ofList m.value ++ " 的值",
        affected := [String.ofList m.value] })) :=
  .of_kind (k := .calculation) (by decide) (by decide) (List.forall_mem_map.mpr fun _ _ => rfl)

end AreShown

theorem areShown_shownRules (body event : String) : AreShown (shownRules body event) := by
  have hvalidate := AreShown.of_condition .validation (by decide) (by decide)
  have hnavigate := AreShown.of_condition .navigation (by decide) (by decide)
  have hjoin := AreShown.of_condition .masterDetail (by decide) (by decide)
  have hcheck := AreShown.of_condition .deleteCheck (by decide) (by decide)
  rw [shownRules]
  exact (((((hvalidate _ _ _).append (.populate _)).append (.calculate _)).append
    (hnavigate _ _ _)).append (hjoin _ _ _)).append (hcheck _ _ _)

/-- The rules of a program: none, the custom rule, or those that it shows. -/
theorem rules_cases (body event : String) :
    (isSimple body = true ∧ rules body event = []) ∨
      isSimple body = false ∧
        ((∃ r, rules body event = [r] ∧ r.kind = .custom ∧ r.description = customText event) ∨
          rules body event ≠ [] ∧ AreShown (rules body event)) := by
  cases hsimple : isSimple body with
  | true => exact Or.inl ⟨rfl, by rw [rules, if_pos hsimple]⟩
  | false =>
    refine Or.inr ⟨rfl, ?_⟩
    rw [rules, if_neg (by simp [hsimple])]
    dsimp only
    split
    · refine Or.inl ⟨⟨.custom, customText event, affectedItems body⟩, rfl, rfl, ?_⟩
      dsimp only
    · next hshown => exact Or.inr ⟨by simpa using hshown, areShown_shownRules body event⟩

/-- The programs without rules are those of the two simple forms. -/
theorem rules_eq_nil_iff {body event : String} :
    rules body event = [] ↔ IsNull body ∨ IsKeyOnly body := by
  rw [← isSimple_iff]
  rcases rules_cases body event with ⟨hsimple, hnil⟩ | ⟨hsimple, ⟨r, hrules, -⟩ | ⟨hne, -⟩⟩
  · simp [hsimple, hnil]
  · simp [hsimple, hrules]
  · simp [hsimple, hne]

/-! ## Labels -/

/-- The names of the items that rules set. -/
def setNames (rules : List Rule) : String :=
  String.intercalate ", "
    (((rules.filter (·.kind == .autoPopulate)).flatMap (·.affected)).map lastPart)

/-- The label of a kind of rule, with the names of the items that are set. -/
def shownLabel (rules : List Rule) (kind : RuleKind) (label : String) : String :=
  if kind = .autoPopulate then label ++ " (" ++ setNames rules ++ ")" else label

/-- The labels of the kinds of the rules, in the order of the catalogue. -/
def shownLabels (rules : List Rule) : List String :=
  (summaryLabels.filter (fun (kind, _) => rules.any (·.kind == kind))).map
    (fun (kind, label) => shownLabel rules kind label)

/-- The comma between the labels is part of no word. -/
theorem isWordChar_comma : Text.isWordChar '、' = false :=
  Text.isWordChar_of_apart (by decide) (by decide +kernel)

namespace AreShown

variable {rules : List Rule}

/-- What is named of an item that is set is a word. -/
theorem lastPart_item (h : AreShown rules) {item : String}
    (hitem : item ∈ (rules.filter (·.kind == .autoPopulate)).flatMap (·.affected)) :
    lastPart item ≠ "" ∧ ∀ c ∈ (lastPart item).toList, Text.isWordChar c = true := by
  obtain ⟨r, hr, hitem⟩ := List.mem_flatMap.mp hitem
  obtain ⟨hr, hkind⟩ := List.mem_filter.mp hr
  obtain ⟨_, ⟨first, second, rfl, hne, hword⟩, haffected⟩ := h.dotted r hr (beq_iff_eq.mp hkind)
  rw [haffected, List.mem_singleton] at hitem
  rw [hitem, lastPart_dotted hword, String.toList_ofList]
  exact ⟨by simpa using hne, hword⟩

theorem setNames_ne_empty (h : AreShown rules)
    (hany : rules.any (·.kind == .autoPopulate) = true) : setNames rules ≠ "" := by
  obtain ⟨r, hr, hkind⟩ := List.any_eq_true.mp hany
  obtain ⟨item, -, haffected⟩ := h.dotted r hr (beq_iff_eq.mp hkind)
  have hmem : String.ofList item ∈
      (rules.filter (·.kind == .autoPopulate)).flatMap (·.affected) := by
    refine List.mem_flatMap.mpr ⟨r, List.mem_filter.mpr ⟨hr, hkind⟩, ?_⟩
    rw [haffected]
    exact List.mem_singleton_self _
  obtain ⟨first, more, hitems⟩ := List.exists_cons_of_ne_nil (List.ne_nil_of_mem hmem)
  have hfirst := (h.lastPart_item (hitems ▸ List.mem_cons_self)).1
  rw [setNames, hitems, List.map_cons]
  cases more with
  | nil => rwa [List.map_nil, String.intercalate_singleton]
  | cons next more =>
    rw [String.intercalate_cons_of_ne_nil (by simp)]
    simp [hfirst]

theorem comma_notMem_setNames (h : AreShown rules) : '、' ∉ (setNames rules).toList := by
  intro hmem
  rw [setNames, String.toList_intercalate] at hmem
  refine Text.forall_mem_intercalate (P := (· ≠ '、')) (by simp)
    (fun part hpart c hc => ?_) _ hmem rfl
  rw [List.map_map] at hpart
  obtain ⟨item, hitem, rfl⟩ := List.mem_map.mp hpart
  rintro rfl
  have hword := (h.lastPart_item hitem).2 _ hc
  rw [isWordChar_comma] at hword
  cases hword

/-- A kind of rule that is present has its label. -/
theorem labelFor_eq (h : AreShown rules) {kind : RuleKind}
    (hany : rules.any (·.kind == kind) = true) (label : String) :
    labelFor rules kind label = shownLabel rules kind label := by
  rw [labelFor, shownLabel]
  by_cases hkind : kind = .autoPopulate
  · subst hkind
    have hnames : ¬ (setNames rules == "") = true := by simpa using h.setNames_ne_empty hany
    rw [if_pos (by decide), if_pos rfl]
    exact if_neg hnames
  · rw [if_neg (by simpa using hkind), if_neg hkind]

theorem comma_notMem_shownLabel (h : AreShown rules) {kind : RuleKind} {label : String}
    (hlabel : (kind, label) ∈ summaryLabels) : '、' ∉ (shownLabel rules kind label).toList := by
  have hplain : ∀ p ∈ summaryLabels, '、' ∉ p.2.toList := by decide
  have hcomma := hplain _ hlabel
  rw [shownLabel]
  split
  · simp only [String.toList_append, List.mem_append, not_or]
    exact ⟨⟨⟨hcomma, by decide⟩, h.comma_notMem_setNames⟩, by decide⟩
  · exact hcomma

theorem shownLabels_ne_nil (h : AreShown rules) (hne : rules ≠ []) : shownLabels rules ≠ [] := by
  obtain ⟨r, more, rfl⟩ := List.exists_cons_of_ne_nil hne
  have hlabel : ∀ kind, kind ≠ .custom → ∃ label, (kind, label) ∈ summaryLabels := by
    intro kind hkind
    cases kind <;> simp [summaryLabels] at hkind ⊢
  obtain ⟨label, hlabel⟩ := hlabel r.kind (h.kind_ne r List.mem_cons_self)
  refine List.ne_nil_of_mem (List.mem_map_of_mem (List.mem_filter.mpr ⟨hlabel, ?_⟩))
  exact List.any_eq_true.mpr ⟨r, List.mem_cons_self, beq_self_eq_true r.kind⟩

/-- The summary of rules that a program shows joins the labels of their kinds. -/
theorem summaryOf_eq (h : AreShown rules) (hne : rules ≠ []) :
    summaryOf rules = String.intercalate "、" (shownLabels rules) := by
  have hlabels : (summaryLabels.filter (fun (kind, _) => rules.any (·.kind == kind))).map
      (fun (kind, label) => labelFor rules kind label) = shownLabels rules := by
    refine List.map_congr_left fun p hp => ?_
    exact h.labelFor_eq (List.mem_filter.mp hp).2 p.2
  have hsome : ¬ rules.isEmpty = true := by simpa using hne
  have hlabel : ¬ (shownLabels rules).isEmpty = true := by simpa using h.shownLabels_ne_nil hne
  rw [summaryOf, if_neg hsome, hlabels]
  exact if_neg hlabel

theorem splitOn_summaryOf (h : AreShown rules) (hne : rules ≠ []) :
    (summaryOf rules).toList.splitOn '、' = (shownLabels rules).map String.toList := by
  have hcomma : "、".toList = ['、'] := by decide
  rw [h.summaryOf_eq hne, String.toList_intercalate, hcomma]
  refine List.splitOn_intercalate '、' (List.forall_mem_map.mpr fun label hlabel => ?_)
    (by simpa using h.shownLabels_ne_nil hne)
  obtain ⟨p, hp, rfl⟩ := List.mem_map.mp hlabel
  exact h.comma_notMem_shownLabel (List.mem_filter.mp hp).1

/-- A text without the comma that begins with no label is no summary of rules. -/
theorem summaryOf_ne (h : AreShown rules) (hne : rules ≠ []) {text : String}
    (hcomma : '、' ∉ text.toList) (hlabels : ∀ p ∈ summaryLabels, ¬ p.2.toList <+: text.toList) :
    summaryOf rules ≠ text := by
  intro heq
  have hparts := h.splitOn_summaryOf hne
  rw [heq, List.splitOn_eq_singleton hcomma] at hparts
  obtain ⟨label, hlabel, hlist⟩ := List.mem_map.mp (hparts ▸ List.mem_singleton_self text.toList)
  obtain ⟨⟨kind, label⟩, hp, rfl⟩ := List.mem_map.mp hlabel
  refine hlabels _ (List.mem_filter.mp hp).1 ?_
  dsimp only at hlist ⊢
  rw [← hlist, shownLabel]
  split
  · simp only [String.toList_append, List.append_assoc]
    exact List.prefix_append _ _
  · exact List.prefix_refl _

end AreShown

theorem summaryOf_custom {r : Rule} (h : r.kind = .custom) : summaryOf [r] = r.description := by
  obtain ⟨kind, description, affected⟩ := r
  obtain rfl : kind = .custom := h
  rfl

/-! ## The two special summaries -/

/-- The summary of a program that does nothing. -/
def nothingSummary : String := "無特殊處理"

/-- The summary of a program that passes a key on. -/
def keySummary : String := "系統按鍵操作"

theorem summary_cases (body event : String) :
    (IsNull body ∧ summary body event = nothingSummary) ∨
      (OpensKey body ∧ summary body event = keySummary) ∨
        ¬ IsNull body ∧ ¬ OpensKey body ∧ summary body event = summaryOf (rules body event) := by
  rw [summary]
  split
  · next hnull => exact Or.inl ⟨isAll_null_trim.mp hnull, rfl⟩
  · next hnull =>
    split
    · next hkey => exact Or.inr (Or.inl ⟨beginsLike_key_trim.mp hkey, rfl⟩)
    · next hkey =>
      exact Or.inr (Or.inr ⟨mt isAll_null_trim.mpr hnull, mt beginsLike_key_trim.mpr hkey, rfl⟩)

theorem customText_mem (event : String) : customText event ∈
    ["按鈕事件處理", "查詢處理", "新增前/後處理", "更新前/後處理", "刪除前/後處理", "自定義邏輯處理"] := by
  rw [customText]
  dsimp only
  cases hfind : List.find? _ _ with
  | none => simp
  | some p =>
    have hmem := List.mem_of_find?_eq_some hfind
    simp only [List.mem_cons, List.not_mem_nil, or_false] at hmem
    rcases hmem with rfl | rfl | rfl | rfl | rfl <;> simp

/-- The summary of rules is neither of the two special summaries. -/
theorem summaryOf_rules_ne {body event : String} (hne : rules body event ≠ []) :
    summaryOf (rules body event) ≠ nothingSummary ∧
      summaryOf (rules body event) ≠ keySummary := by
  rcases rules_cases body event with ⟨-, hnil⟩ | ⟨-, ⟨r, hrules, hkind, htext⟩ | ⟨-, hshown⟩⟩
  · exact absurd hnil hne
  · have htexts : ∀ text ∈ ["按鈕事件處理", "查詢處理", "新增前/後處理", "更新前/後處理", "刪除前/後處理",
        "自定義邏輯處理"], text ≠ nothingSummary ∧ text ≠ keySummary := by
      decide
    rw [hrules, summaryOf_custom hkind, htext]
    exact htexts _ (customText_mem event)
  · exact ⟨hshown.summaryOf_ne hne (by decide) (by decide),
      hshown.summaryOf_ne hne (by decide) (by decide)⟩

/-- A program that neither does nothing nor begins as one that passes a key on has rules. -/
theorem rules_ne_nil {body event : String} (hnull : ¬ IsNull body) (hkey : ¬ OpensKey body) :
    rules body event ≠ [] := by
  intro hnil
  rcases rules_eq_nil_iff.mp hnil with h | h
  · exact hnull h
  · exact hkey h.opensKey

theorem summary_eq_nothing_iff {body event : String} :
    summary body event = nothingSummary ↔ IsNull body := by
  rcases summary_cases body event with ⟨hnull, heq⟩ | ⟨hkey, heq⟩ | ⟨hnull, hkey, heq⟩
  · exact iff_of_true heq hnull
  · refine iff_of_false ?_ (not_isNull_of_opensKey hkey)
    rw [heq]
    decide
  · refine iff_of_false ?_ hnull
    rw [heq]
    exact (summaryOf_rules_ne (rules_ne_nil hnull hkey)).1

theorem summary_eq_key_iff {body event : String} :
    summary body event = keySummary ↔ OpensKey body := by
  rcases summary_cases body event with ⟨hnull, heq⟩ | ⟨hkey, heq⟩ | ⟨hnull, hkey, heq⟩
  · refine iff_of_false ?_ fun hkey => not_isNull_of_opensKey hkey hnull
    rw [heq]
    decide
  · exact iff_of_true heq hkey
  · refine iff_of_false ?_ hkey
    rw [heq]
    exact (summaryOf_rules_ne (rules_ne_nil hnull hkey)).2

/-- A custom rule is the only rule of its program. -/
theorem rules_eq_singleton {body event : String} {r : Rule} (hr : r ∈ rules body event)
    (hkind : r.kind = .custom) : rules body event = [r] := by
  rcases rules_cases body event with ⟨-, hnil⟩ | ⟨-, ⟨c, hrules, -⟩ | ⟨-, hshown⟩⟩
  · rw [hnil] at hr
    cases hr
  · rw [hrules] at hr ⊢
    rw [List.mem_singleton.mp hr]
  · exact absurd hkind (hshown.kind_ne r hr)

/-- **How the summary goes with the rules.** For every program and every event, the summary says
that nothing is done exactly of the programs that do nothing, and that a key is passed on exactly
of the programs that begin as one that does; the programs without rules are those of the two forms
as a whole. So one of the two special summaries stands for the absence of rules exactly where what
begins as a call that passes a key on is nothing else. A custom rule stands alone. Of every other
program with rules the summary is the description of the custom rule, or its parts are the labels of
the kinds of rules that are present, in the order of the catalogue. -/
theorem summary_agrees (body event : String) :
    (summary body event = nothingSummary ↔ IsNull body) ∧
      (summary body event = keySummary ↔ OpensKey body) ∧
      (rules body event = [] ↔ IsNull body ∨ IsKeyOnly body) ∧
      ((summary body event = nothingSummary ∨ summary body event = keySummary ↔
          rules body event = []) ↔ (OpensKey body → IsKeyOnly body)) ∧
      (∀ r ∈ rules body event, r.kind = .custom → rules body event = [r]) ∧
      (rules body event ≠ [] → ¬ OpensKey body →
        (∃ r, rules body event = [r] ∧ r.kind = .custom ∧ summary body event = r.description) ∨
          (∀ r ∈ rules body event, r.kind ≠ .custom) ∧
            (summary body event).toList.splitOn '、' =
              (shownLabels (rules body event)).map String.toList) := by
  refine ⟨summary_eq_nothing_iff, summary_eq_key_iff, rules_eq_nil_iff, ?_,
    fun r hr hkind => rules_eq_singleton hr hkind, fun hne hkey => ?_⟩
  · rw [summary_eq_nothing_iff, summary_eq_key_iff, rules_eq_nil_iff]
    constructor
    · intro hagree hkey
      exact (hagree.mp (Or.inr hkey)).resolve_left (not_isNull_of_opensKey hkey)
    · intro honly
      exact or_congr_right ⟨honly, IsKeyOnly.opensKey⟩
  · have hnull : ¬ IsNull body := fun h => hne (rules_eq_nil_iff.mpr (Or.inl h))
    have hsummary : summary body event = summaryOf (rules body event) := by
      rcases summary_cases body event with ⟨h, -⟩ | ⟨h, -⟩ | ⟨-, -, heq⟩
      · exact absurd h hnull
      · exact absurd h hkey
      · exact heq
    rw [hsummary]
    rcases rules_cases body event with ⟨-, hnil⟩ | ⟨-, ⟨r, hrules, hkind, -⟩ | ⟨-, hshown⟩⟩
    · exact absurd hnil hne
    · rw [hrules]
      exact Or.inl ⟨r, rfl, hkind, summaryOf_custom hkind⟩
    · exact Or.inr ⟨hshown.kind_ne, hshown.splitOn_summaryOf hne⟩

/-- A program that goes on after passing a key on has a rule that its summary does not name. -/
theorem summary_key_and_more :
    (rules "do_key(k); go_block(b);" "KEY-EXIT").map (·.kind) = [.navigation] ∧
      summary "do_key(k); go_block(b);" "KEY-EXIT" = keySummary := by
  decide +kernel

end Formwork.Trigger
