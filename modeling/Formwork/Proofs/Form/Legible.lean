import Formwork.Form.Reader
import Formwork.Proofs.Text.Reference

/-!
# Forms that are read

A form is read unless an integer in it has more digits than are read. Such an integer matters only
where it is looked at: in a decimal reference of an attribute that is kept, of a tag that is looked
for, or at the start of an attribute that holds a number. The condition of each reader is put
together from those of its parts, and `okIff_read` has the condition for a whole form.
-/
namespace Formwork.Form

/-! ## Attributes and tags -/

/-- The integer at the start of an attribute, if there is one, has no more digits than are read. -/
def Attributes.InLimit (a : Attributes) (name : String) : Prop :=
  isOverlong (Attributes.leadingDigits (a.text name)).2 = false

instance (a : Attributes) (name : String) : Decidable (a.InLimit name) :=
  inferInstanceAs (Decidable (_ = _))

theorem okIff_integer (a : Attributes) (name : String) (default : Int) :
    OkIff (a.integer name default) (a.InLimit name) := by
  rw [Attributes.integer, Attributes.InLimit]
  exact .guard _ _

theorem eq_of_integer {a : Attributes} {name : String} {default n : Int}
    (h : a.integer name default = .ok n) :
    n = (Attributes.leadingInteger? (a.text name)).getD default := by
  rw [Attributes.integer] at h
  split at h
  · cases h
  · exact (Except.ok.inj h).symm

/-- A number of more digits than are read. -/
def overlongNumber : String :=
  String.ofList (List.replicate (integerDigitLimit + 1) '9')

theorem leadingDigits_overlongNumber : Attributes.leadingDigits overlongNumber =
    (false, List.replicate (integerDigitLimit + 1) '9') := by
  have hblank : ¬ Text.isBlank '9' = true := by decide
  have hdigit : Text.isDecimalDigit '9' = true := by decide
  have htail : (List.replicate integerDigitLimit '9').takeWhile Text.isDecimalDigit =
      List.replicate integerDigitLimit '9' :=
    List.takeWhile_eq_self_iff.mpr fun c hc => List.eq_of_mem_replicate hc ▸ hdigit
  have hsign (cs : List Char) : takeSign ('9' :: cs) = (false, '9' :: cs) := rfl
  rw [Attributes.leadingDigits, overlongNumber, String.toList_ofList, List.replicate_succ,
    List.dropWhile_cons_of_neg hblank, hsign]
  simp only [List.takeWhile_cons_of_pos hdigit, htail]

theorem not_inLimit {a : Attributes} {name : String} (h : a.text name = overlongNumber) :
    ¬ a.InLimit name := by
  rw [Attributes.InLimit, h, leadingDigits_overlongNumber, isOverlong, List.length_replicate]
  simp

theorem exceedsDigits_leadingInteger {text : String} {n : Int}
    (hlimit : isOverlong (Attributes.leadingDigits text).2 = false)
    (h : Attributes.leadingInteger? text = some n) : exceedsDigits n = false := by
  have hvalue : n.natAbs =
      digitsValue ((Attributes.leadingDigits text).2.map plainDigit) := by
    simp only [Attributes.leadingInteger?] at h
    split at h
    · cases h
    · obtain rfl := Option.some.inj h
      split <;> simp
  have hdigits : ∀ c ∈ (Attributes.leadingDigits text).2.map plainDigit, c.toNat - 48 < 10 :=
    List.forall_mem_map.mpr fun c hc => plainDigit_lt (List.mem_takeWhile_imp hc)
  have hlt := digitsValue_lt hdigits
  rw [← hvalue, List.length_map] at hlt
  refine exceedsDigits_eq_false.mpr (hlt.trans_le (pow_le_firstOverlong ?_))
  simpa [isOverlong] using hlimit

/-- An integer that is read can be written. -/
theorem exceedsDigits_of_integer {a : Attributes} {name : String} {default n : Int}
    (hdefault : exceedsDigits default = false) (h : a.integer name default = .ok n) :
    exceedsDigits n = false := by
  rw [eq_of_integer h]
  cases hread : Attributes.leadingInteger? (a.text name) with
  | none => exact hdefault
  | some read => exact exceedsDigits_leadingInteger ((okIff_integer a name default).of_ok h) hread

/-- No attribute that is kept has a decimal reference of more digits than are read. -/
def LegibleAttributes (cs : List Char) : Prop :=
  ∀ p ∈ writtenAttributes cs, Text.Legible p.2.toList

theorem okIff_readAttributes (cs : List Char) :
    OkIff (readAttributes cs) (LegibleAttributes cs) :=
  .mapM fun p _ => (Text.okIff_unescape p.2).map (p.1, ·)

theorem okIff_ofFound (found : Text.Match.Found (List Char)) :
    OkIff (Tag.ofFound found) (LegibleAttributes (attributeText found.value)) :=
  (okIff_readAttributes _).map _

/-- The attributes of the tags of a kind of element are legible. -/
def LegibleTags (tag : String) (document : List Char) : Prop :=
  ∀ found ∈ writtenTags tag document, LegibleAttributes (attributeText found.value)

theorem okIff_scanTags (tag : String) (document : List Char) :
    OkIff (scanTags tag document) (LegibleTags tag document) :=
  .mapM fun found _ => okIff_ofFound found

/-- What holds of the attributes of all tags of a kind that is read. -/
def EachTag (tag : String) (document : List Char) (p : Attributes → Prop) : Prop :=
  ∀ tags, scanTags tag document = .ok tags → ∀ t ∈ tags, p t.attributes

theorem okIff_elementsOf (tag : String) (document : List Char) :
    OkIff (elementsOf tag document) (LegibleTags tag document) :=
  (okIff_scanTags tag document).bind_ok _

/-- What holds of the tags of a kind holds of the elements. -/
theorem eachTag_iff {tag : String} {document : List Char} {p : Attributes → Prop} :
    EachTag tag document p ↔
      ∀ elements, elementsOf tag document = .ok elements → ∀ e ∈ elements, p e.value := by
  constructor
  · intro h elements helements e he
    obtain ⟨tags, htags, helements⟩ := bind_eq_ok.mp helements
    obtain rfl := Except.ok.inj helements
    obtain ⟨t, ht, rfl⟩ := List.mem_map.mp he
    exact h tags htags t ht
  · intro h tags htags t ht
    exact h _ (bind_eq_ok.mpr ⟨tags, htags, rfl⟩) _ (List.mem_map_of_mem ht)

/-! ## Items and blocks -/

/-- The attributes of an item that hold integers. -/
def itemIntegers : List String :=
  ["MaximumLength", "XPosition", "YPosition", "Width", "Height"]

theorem okIff_item (a : Attributes) :
    OkIff (Item.ofAttributes a) (∀ name ∈ itemIntegers, a.InLimit name) := by
  have hinteger : ∀ name, OkIff (a.integer name 0) (a.InLimit name) :=
    fun name => okIff_integer a name 0
  refine OkIff.congr ((hinteger _).seq fun _ => (hinteger _).seq fun _ => (hinteger _).seq fun _ =>
    (hinteger _).seq fun _ => (hinteger _).bind_ok _) ?_
  simp [itemIntegers]

/-- The items of a document are legible. -/
def LegibleItems (document : List Char) : Prop :=
  LegibleTags "Item" document ∧
    EachTag "Item" document (fun a => ∀ name ∈ itemIntegers, a.InLimit name)

theorem okIff_itemsOf (document : List Char) :
    OkIff (itemsOf document) (LegibleItems document) := by
  rw [LegibleItems, eachTag_iff]
  exact (okIff_elementsOf "Item" document).bind fun elements _ =>
    .mapM fun p _ => (okIff_item p.value).bind_ok _

/-- Items stand where their elements do. -/
theorem map_span_itemsOf {document : List Char} {items : List (Placed Item)}
    {elements : List (Placed Attributes)} (hitems : itemsOf document = .ok items)
    (helements : elementsOf "Item" document = .ok elements) :
    items.map (fun p => (p.start, p.stop)) = elements.map (fun p => (p.start, p.stop)) := by
  rw [itemsOf, helements] at hitems
  refine map_of_mapM hitems fun p _ i hi => ?_
  obtain ⟨item, -, hi⟩ := bind_eq_ok.mp hi
  obtain rfl := Except.ok.inj hi
  rfl

theorem okIff_triggersOf (document : List Char) :
    OkIff (triggersOf document) (LegibleTags "Trigger" document) :=
  (okIff_scanTags "Trigger" document).bind_ok _

/-- The blocks of a document are legible, with the triggers in them; the number of records only
matters of a block that has a name and is not skipped. -/
def LegibleBlocks (skipped : String → Bool) (document : List Char) : Prop :=
  LegibleTags "Trigger" document ∧ LegibleTags "Block" document ∧
    EachTag "Block" document (fun a => a.text "Name" ≠ "" → skipped (a.text "Name") = false →
      a.InLimit "RecordsDisplayCount")

theorem okIff_blocksOf (tokens : List String) (skipped : String → Bool)
    (items : List (Placed Item)) (document : List Char) :
    OkIff (blocksOf tokens skipped items document) (LegibleBlocks skipped document) := by
  rw [LegibleBlocks, eachTag_iff]
  refine (okIff_triggersOf document).seq fun triggers =>
    OkIff.bind (okIff_elementsOf "Block" document) fun elements _ => ?_
  refine OkIff.congr (.mapM fun p _ => (okIff_integer p.value "RecordsDisplayCount" 0).bind_ok _)
    ?_
  simp [List.mem_filter]

/-- What the blocks have that are read, each from its element: those that have a name and are not
skipped. -/
theorem map_blocksOf {β : Type} {tokens : List String} {skipped : String → Bool}
    {items : List (Placed Item)} {document : List Char} {blocks : List Block}
    {triggers : List (Nat × Trigger)} {elements : List (Placed Attributes)}
    (hblocks : blocksOf tokens skipped items document = .ok blocks)
    (htriggers : triggersOf document = .ok triggers)
    (helements : elementsOf "Block" document = .ok elements) {f : Block → β}
    {g : Placed Attributes → β}
    (hfg : ∀ p ∈ elements, ∀ b, Block.ofElement tokens items triggers p = .ok b → f b = g p) :
    blocks.map f = (elements.filter (fun p =>
      p.value.text "Name" != "" && !skipped (p.value.text "Name"))).map g := by
  rw [blocksOf, htriggers, helements] at hblocks
  exact map_of_mapM hblocks fun p hp b hb => hfg p (List.mem_filter.mp hp).1 b hb

/-- A block that is read has the items that belong to it by its name. -/
theorem items_of_mem_blocksOf {tokens : List String} {skipped : String → Bool}
    {items : List (Placed Item)} {document : List Char} {blocks : List Block}
    (h : blocksOf tokens skipped items document = .ok blocks) {b : Block} (hb : b ∈ blocks) :
    b.items = membersOf tokens b.name items := by
  obtain ⟨triggers, -, h⟩ := bind_eq_ok.mp h
  obtain ⟨elements, -, h⟩ := bind_eq_ok.mp h
  obtain ⟨p, -, hp⟩ := exists_of_mem_mapM h hb
  obtain ⟨displayCount, -, hp⟩ := bind_eq_ok.mp hp
  obtain rfl := Except.ok.inj hp
  rfl

theorem okIff_buttonsOf (systemLabels : List String) (blocks : List Block)
    (items : List (Placed Item)) (document : List Char) :
    OkIff (buttonsOf systemLabels blocks items document) (LegibleTags "Trigger" document) :=
  (okIff_triggersOf document).bind_ok _

theorem okIff_formTriggersOf (items : List (Placed Item)) (document : List Char) :
    OkIff (formTriggersOf items document)
      (LegibleTags "Block" document ∧ LegibleTags "Trigger" document) :=
  (okIff_elementsOf "Block" document).seq fun _ => (okIff_triggersOf document).bind_ok _

/-! ## Canvases, lists of values and record groups -/

theorem okIff_surfacesOf (document : List Char) :
    OkIff (surfacesOf document)
      (LegibleTags "Canvas" document ∧ LegibleTags "TabPage" document) :=
  (okIff_scanTags "Canvas" document).seq fun _ =>
    (okIff_scanTags "TabPage" document).bind_ok _

/-- The columns in a list of values are legible; the width only matters of a column with a name. -/
def LegibleColumns (content : List Char) : Prop :=
  LegibleTags "LOVColumnMapping" content ∧
    EachTag "LOVColumnMapping" content (fun a => a.text "Name" ≠ "" → a.InLimit "DisplayWidth")

theorem okIff_lovColumnsOf (content : List Char) :
    OkIff (lovColumnsOf content) (LegibleColumns content) := by
  refine OkIff.bind (okIff_scanTags "LOVColumnMapping" content) fun tags _ => ?_
  refine OkIff.congr (.mapM fun a _ => (okIff_integer a "DisplayWidth" 0).bind_ok _) ?_
  simp [List.mem_filter]

/-- The lists of values with content are legible; the columns only matter of a list with a name. -/
def LegibleFilledLovs (document : List Char) : Prop :=
  ∀ found ∈ Text.Match.findAll (fun _ => filledLov?) document, LegibleAttributes found.value.1 ∧
    ∀ a, readAttributes found.value.1 = .ok a → a.text "Name" ≠ "" → LegibleColumns found.value.2

theorem okIff_ofFilled? (body content : List Char) :
    OkIff (Lov.ofFilled? body content) (LegibleAttributes body ∧
      ∀ a, readAttributes body = .ok a → a.text "Name" ≠ "" → LegibleColumns content) := by
  refine OkIff.bind (okIff_readAttributes body) fun a _ => ?_
  by_cases hname : a.text "Name" = ""
  · exact .of_eq_ok (if_pos (beq_iff_eq.mpr hname)) fun h => absurd hname h
  · rw [if_neg (by simpa using hname)]
    refine ((okIff_lovColumnsOf content).bind_ok _).congr ?_
    exact (imp_iff_right hname).symm

theorem okIff_filledLovsOf (document : List Char) :
    OkIff (filledLovsOf document) (LegibleFilledLovs document) :=
  OkIff.bind_ok (.mapM fun found _ => okIff_ofFilled? found.value.1 found.value.2) _

/-- The lists of values of a document are legible. -/
def LegibleLovs (document : List Char) : Prop :=
  LegibleFilledLovs document ∧ LegibleTags "LOV" document

theorem okIff_lovsOf (document : List Char) :
    OkIff (lovsOf document) (LegibleLovs document) :=
  (okIff_filledLovsOf document).seq fun _ => (okIff_scanTags "LOV" document).bind_ok _

theorem okIff_recordGroupsOf (document : List Char) :
    OkIff (recordGroupsOf document) (LegibleTags "RecordGroup" document) :=
  (okIff_scanTags "RecordGroup" document).bind_ok _

/-! ## Forms -/

/-- The tags of a list are legible up to the first that has a name. -/
def LegibleToName (tags : List (Text.Match.Found (List Char))) : Prop :=
  ∀ before found after, tags = before ++ found :: after →
    (∀ f ∈ before, ∀ t, Tag.ofFound f = .ok t → t.attributes.text "Name" = "") →
      LegibleAttributes (attributeText found.value)

theorem legibleToName_nil : LegibleToName [] := by
  intro before found after h
  simp at h

theorem legibleToName_cons {found : Text.Match.Found (List Char)}
    {tags : List (Text.Match.Found (List Char))} :
    LegibleToName (found :: tags) ↔ LegibleAttributes (attributeText found.value) ∧
      ∀ t, Tag.ofFound found = .ok t → t.attributes.text "Name" = "" → LegibleToName tags := by
  constructor
  · intro h
    refine ⟨h [] found tags rfl (by simp), fun t ht hname before f after heq hbefore => ?_⟩
    refine h (found :: before) f after (congrArg (found :: ·) heq) ?_
    rw [List.forall_mem_cons]
    refine ⟨fun u hu => ?_, hbefore⟩
    rw [ht] at hu
    rwa [← Except.ok.inj hu]
  · rintro ⟨hfirst, hrest⟩ before f after heq hbefore
    cases before with
    | nil =>
      obtain ⟨rfl, -⟩ := List.cons.inj heq
      exact hfirst
    | cons g before =>
      obtain ⟨rfl, rfl⟩ := List.cons.inj heq
      obtain ⟨hg, hbefore⟩ := List.forall_mem_cons.mp hbefore
      obtain ⟨t, ht⟩ := (okIff_ofFound found).ok hfirst
      exact hrest t ht (hg t ht) before f after rfl hbefore

theorem okIff_firstNamed (tags : List (Text.Match.Found (List Char))) :
    OkIff (firstNamed tags) (LegibleToName tags) := by
  induction tags with
  | nil => exact .of_eq_ok rfl legibleToName_nil
  | cons found tags ih =>
    refine OkIff.congr (OkIff.bind (okIff_ofFound found) (fun t _ => ?_))
      legibleToName_cons.symm
    by_cases hname : t.attributes.text "Name" = ""
    · rw [if_pos (beq_iff_eq.mpr hname)]
      exact ih.congr (imp_iff_right hname).symm
    · exact .of_eq_ok (if_neg (by simpa using hname)) fun h => absurd h hname

/-- The tag of the form itself is legible. -/
def LegibleHeader (document : List Char) : Prop :=
  match writtenTags "FormModule" document with
  | found :: _ => LegibleAttributes (attributeText found.value)
  | [] => LegibleToName (writtenTags "Module" document)

theorem okIff_headerOf (document : List Char) :
    OkIff (headerOf document) (LegibleHeader document) := by
  rw [headerOf, LegibleHeader]
  cases writtenTags "FormModule" document with
  | nil => exact okIff_firstNamed _
  | cons found tags => exact (okIff_ofFound found).map _

/-- Where all tags of the form are legible, so is the one that is taken. -/
theorem legibleHeader_of_tags {document : List Char} (hform : LegibleTags "FormModule" document)
    (hmodule : LegibleTags "Module" document) : LegibleHeader document := by
  rw [LegibleHeader]
  split
  · next found tags heq => exact hform found (heq ▸ List.mem_cons_self)
  · intro before found after heq _
    exact hmodule found (by simp [heq])

/-- Everything in a document that is looked at is legible. -/
structure Legible (skipped : String → Bool) (document : List Char) : Prop where
  header : LegibleHeader document
  items : LegibleItems document
  blocks : LegibleBlocks skipped document
  canvases : LegibleTags "Canvas" document
  tabPages : LegibleTags "TabPage" document
  lovs : LegibleLovs document
  recordGroups : LegibleTags "RecordGroup" document

variable {s : Settings} {skipped : String → Bool} {labels : List String}

/-- A form is read exactly if what is looked at is legible. -/
theorem okIff_read (hskipped : s.skippedBlocks = .ok skipped)
    (hlabels : s.systemLabels = .ok labels) (text : String) :
    OkIff (Module.read s text) (Legible skipped text.toList) := by
  have hread : OkIff (Module.read s text) (LegibleHeader text.toList ∧
      LegibleItems text.toList ∧ LegibleBlocks skipped text.toList ∧
      (LegibleTags "Canvas" text.toList ∧ LegibleTags "TabPage" text.toList) ∧
      LegibleLovs text.toList ∧ LegibleTags "RecordGroup" text.toList ∧
      LegibleTags "Trigger" text.toList ∧
      (LegibleTags "Block" text.toList ∧ LegibleTags "Trigger" text.toList)) := by
    rw [Module.read, hskipped, hlabels]
    refine (okIff_headerOf _).seq fun header => (okIff_itemsOf _).seq fun items =>
      (okIff_blocksOf indexTokens skipped items _).seq fun blocks =>
      (okIff_surfacesOf _).seq fun (canvases, tabPages) => (okIff_lovsOf _).seq fun lovs =>
      (okIff_recordGroupsOf _).seq fun recordGroups =>
      (okIff_buttonsOf labels blocks items _).seq fun buttons =>
      (okIff_formTriggersOf items _).bind_ok _
  refine hread.congr ⟨?_, fun h => ?_⟩
  · rintro ⟨hheader, hitems, hblocks, ⟨hcanvases, htabPages⟩, hlovs, hgroups, -⟩
    exact ⟨hheader, hitems, hblocks, hcanvases, htabPages, hlovs, hgroups⟩
  · exact ⟨h.header, h.items, h.blocks, ⟨h.canvases, h.tabPages⟩, h.lovs, h.recordGroups,
      h.blocks.1, h.blocks.2.1, h.blocks.1⟩

/-- What a form that is read consists of. -/
theorem parts_read (hskipped : s.skippedBlocks = .ok skipped)
    (hlabels : s.systemLabels = .ok labels) {text : String} {m : Module}
    (h : Module.read s text = .ok m) : ∃ items, itemsOf text.toList = .ok items ∧
      blocksOf indexTokens skipped items text.toList = .ok m.blocks ∧
      formTriggersOf items text.toList = .ok m.triggers := by
  simp only [Module.read, hskipped, hlabels, ok_bind] at h
  obtain ⟨header, -, h⟩ := bind_eq_ok.mp h
  obtain ⟨items, hitems, h⟩ := bind_eq_ok.mp h
  obtain ⟨blocks, hblocks, h⟩ := bind_eq_ok.mp h
  obtain ⟨surfaces, -, h⟩ := bind_eq_ok.mp h
  obtain ⟨lovs, -, h⟩ := bind_eq_ok.mp h
  obtain ⟨recordGroups, -, h⟩ := bind_eq_ok.mp h
  obtain ⟨buttons, -, h⟩ := bind_eq_ok.mp h
  obtain ⟨triggers, htriggers, h⟩ := bind_eq_ok.mp h
  obtain rfl := Except.ok.inj h
  exact ⟨items, hitems, hblocks, htriggers⟩

/-! ## The settings that are built in -/

/-- The blocks that reading skips with the settings that are built in. -/
def skippedBuiltin (name : String) : Bool :=
  ["HEAD_BLOCK", "TOOL_BUTTON", "CBLK"].contains name

theorem skippedBlocks_builtin : Settings.builtin.skippedBlocks = .ok skippedBuiltin := by
  have hread : Settings.builtin.skippedBlocks = .ok (fun name =>
      (["HEAD_BLOCK", "TOOL_BUTTON", "CBLK"].map Value.text).contains (Value.text name)) := rfl
  rw [hread]
  refine congrArg Except.ok (funext fun name => ?_)
  rw [skippedBuiltin, Bool.eq_iff_iff, List.contains_iff_mem, List.contains_iff_mem]
  simp

theorem okIff_read_builtin (text : String) :
    OkIff (Module.read .builtin text) (Legible skippedBuiltin text.toList) :=
  okIff_read skippedBlocks_builtin rfl text

end Formwork.Form
