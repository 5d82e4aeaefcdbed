/-
  Ril/EccXml.lean --- `MtkEccList.parseEccList`: the customised list as it is read
  from `/system/etc/ecc_list.xml`.

  The loop sees a stream of parser events and carries one record from a start tag
  to an end tag.  Behind it, for a product with `ro.mtk_cta_set`, four numbers are
  entered whatever the file says.  All of it stands in one `try`.

  The document is a tree here, `XmlContent`, or the part of one that was read before
  the parser threw, `XmlPrefix`; the stream is written from the tree.  Where no
  `EccEntry` stands inside another the loop reads back the entries of the document
  in their order (`parseEvents_of_unnested`).  In general it reads the elements with
  no `EccEntry` inside them (`mem_parseEvents`), as the record of an outer element is
  gone by its end tag.
-/
import MediatekCommon.Ril.EccList

set_option autoImplicit false

namespace MediatekCommon.Ril

open MediatekCommon.Foundation

/-! ## Events -/

/-- The attributes of a start tag as the parser counts them.  A well-formed tag gives
a name once. -/
abbrev XmlAttributes : Type := AList fun _ : JavaString => JavaString

/-- What `XmlPullParser` reports before `END_DOCUMENT`. -/
inductive XmlEvent where
  /-- `START_DOCUMENT` -/
  | startDocument
  /-- `START_TAG` -/
  | startTag (name : JavaString) (attributes : XmlAttributes)
  /-- `END_TAG` -/
  | endTag (name : JavaString)
  /-- `TEXT` -/
  | text

/-- `ECC_ENTRY_TAG`. -/
def eccEntryTag : JavaString := "EccEntry".toList

/-- `ECC_ATTR`. -/
def eccAttr : JavaString := "Ecc".toList

/-- `CATEGORY_ATTR`. -/
def categoryAttr : JavaString := "Category".toList

/-- `CONDITION_ATTR`. -/
def conditionAttr : JavaString := "Condition".toList

/-- `new EccEntry()`. -/
def EccEntry.empty : EccEntry := ⟨[], [], []⟩

/-- One turn of the loop over the attributes. -/
def EccEntry.setAttribute (record : EccEntry) : (Σ _ : JavaString, JavaString) → EccEntry
  | ⟨name, value⟩ =>
      if name = eccAttr then { record with mEcc := value }
      else if name = categoryAttr then { record with mCategory := value }
      else if name = conditionAttr then { record with mCondition := value }
      else record

/-- The record a start tag makes. -/
def EccEntry.ofAttributes (attributes : XmlAttributes) : EccEntry :=
  attributes.entries.foldl EccEntry.setAttribute EccEntry.empty

/-- The locals of the event loop: `record`, null at first, and the list. -/
structure EccLoop where
  record : Option EccEntry
  mCustomizedEccList : List EccEntry

/-- The `switch` on one event. -/
def handleEvent (s : EccLoop) : XmlEvent → EccLoop
  | .startTag name attributes =>
      if name = eccEntryTag then { s with record := some (.ofAttributes attributes) } else s
  | .endTag name =>
      match s.record with
      | some record =>
          if name = eccEntryTag then
            { s with mCustomizedEccList := s.mCustomizedEccList ++ [record] }
          else s
      | none => s
  | _ => s

/-- The event loop. -/
def parseEvents (events : List XmlEvent) (s : EccLoop) : EccLoop :=
  events.foldl handleEvent s

/-! ## The numbers for CTA -/

/-- `emergencyCTAList`. -/
def emergencyCTAList : List JavaString :=
  ["120".toList, "122".toList, "110".toList, "119".toList]

/-- The record made for one of these numbers. -/
def ctaEntry (emergencyNum : JavaString) : EccEntry := ⟨emergencyNum, "0".toList, eccForMmi⟩

/-- The loop that looks for the number: `bFound` and `nIndex` as it leaves them. -/
def searchEcc (emergencyNum : JavaString) : List EccEntry → Nat → Bool × Nat
  | [], nIndex => (false, nIndex)
  | eccEntry :: rest, nIndex =>
      if eccEntry.mEcc = emergencyNum then (true, nIndex)
      else searchEcc emergencyNum rest (nIndex + 1)

/-- One turn of the loop over `emergencyCTAList`. -/
def putCtaEntry (list : List EccEntry) (emergencyNum : JavaString) : List EccEntry :=
  let (bFound, nIndex) := searchEcc emergencyNum list 0
  if bFound then list.set nIndex (ctaEntry emergencyNum)
  else list ++ [ctaEntry emergencyNum]

/-! ## Documents -/

/-- The content of a document or of an element: text and elements in their order. -/
inductive XmlContent where
  | nil
  | text (rest : XmlContent)
  | element (name : JavaString) (attributes : XmlAttributes) (children rest : XmlContent)

/-- The part of a content that was read before the parser threw: the last tag opened
may have no end tag yet. -/
inductive XmlPrefix where
  | nil
  | text (rest : XmlPrefix)
  | element (name : JavaString) (attributes : XmlAttributes) (children : XmlContent)
      (rest : XmlPrefix)
  | opened (name : JavaString) (attributes : XmlAttributes) (inside : XmlPrefix)

/-- The events of a content. -/
def XmlContent.events : XmlContent → List XmlEvent
  | .nil => []
  | .text rest => .text :: rest.events
  | .element name attributes children rest =>
      .startTag name attributes :: (children.events ++ .endTag name :: rest.events)

/-- The events read before the failure. -/
def XmlPrefix.events : XmlPrefix → List XmlEvent
  | .nil => []
  | .text rest => .text :: rest.events
  | .element name attributes children rest =>
      .startTag name attributes :: (children.events ++ .endTag name :: rest.events)
  | .opened name attributes inside => .startTag name attributes :: inside.events

/-- What became of reading the file. -/
inductive EccFile where
  /-- The factory made no parser. -/
  | noParser
  /-- The parser or the file could not be opened. -/
  | notOpened
  /-- The parser threw behind these events. -/
  | broken (before : XmlPrefix)
  /-- The document was read to its end; closing the file may still throw. -/
  | read (content : XmlContent) (closes : Bool)

/-- `parseEccList()`.  Every exception is caught, behind everything. -/
def parseEccList (sIsCtaSet : Bool) (file : EccFile) (L : MtkEccList) : MtkEccList :=
  { L with
    mCustomizedEccList :=
      match file with
      | .noParser => []
      | .notOpened => []
      | .broken before =>
          (parseEvents (.startDocument :: before.events) ⟨none, []⟩).mCustomizedEccList
      | .read content closes =>
          let list :=
            (parseEvents (.startDocument :: content.events) ⟨none, []⟩).mCustomizedEccList
          if closes && sIsCtaSet then emergencyCTAList.foldl putCtaEntry list else list }

/-! ## The entries of a document -/

/-- The entry an `EccEntry` element stands for: its attributes, the missing ones empty. -/
def entryOf (attributes : XmlAttributes) : EccEntry where
  mEcc := (attributes.lookup eccAttr).getD []
  mCategory := (attributes.lookup categoryAttr).getD []
  mCondition := (attributes.lookup conditionAttr).getD []

/-- The `EccEntry` elements in document order. -/
def XmlContent.entries : XmlContent → List EccEntry
  | .nil => []
  | .text rest => rest.entries
  | .element name attributes children rest =>
      (if name = eccEntryTag then [entryOf attributes] else []) ++ children.entries ++ rest.entries

/-- No `EccEntry` element stands inside another one. -/
def XmlContent.Unnested : XmlContent → Prop
  | .nil => True
  | .text rest => rest.Unnested
  | .element name _ children rest =>
      (name = eccEntryTag → children.entries = []) ∧ children.Unnested ∧ rest.Unnested

/-- The `EccEntry` elements with no `EccEntry` inside. -/
def XmlContent.innermost : XmlContent → List EccEntry
  | .nil => []
  | .text rest => rest.innermost
  | .element name attributes children rest =>
      (if name = eccEntryTag ∧ children.entries = [] then [entryOf attributes] else []) ++
        children.innermost ++ rest.innermost

/-- The `EccEntry` elements completed before the failure. -/
def XmlPrefix.entries : XmlPrefix → List EccEntry
  | .nil => []
  | .text rest => rest.entries
  | .element name attributes children rest =>
      (if name = eccEntryTag then [entryOf attributes] else []) ++ children.entries ++ rest.entries
  | .opened _ _ inside => inside.entries

/-- The completed ones with no `EccEntry` inside. -/
def XmlPrefix.innermost : XmlPrefix → List EccEntry
  | .nil => []
  | .text rest => rest.innermost
  | .element name attributes children rest =>
      (if name = eccEntryTag ∧ children.entries = [] then [entryOf attributes] else []) ++
        children.innermost ++ rest.innermost
  | .opened _ _ inside => inside.innermost

theorem XmlContent.innermost_subset_entries (content : XmlContent) :
    content.innermost ⊆ content.entries := by
  intro entry hentry
  induction content with
  | nil => exact hentry
  | text rest ih => exact ih hentry
  | element name attributes children rest ihChildren ihRest =>
      simp only [innermost, entries, List.mem_append] at hentry ⊢
      rcases hentry with (hself | hchildren) | hrest
      · split at hself
        · rename_i hinner
          exact .inl (.inl (by simpa [hinner.1] using hself))
        · cases hself
      · exact .inl (.inr (ihChildren hchildren))
      · exact .inr (ihRest hrest)

theorem XmlContent.innermost_eq_nil {content : XmlContent} (h : content.entries = []) :
    content.innermost = [] := by
  have hsub := content.innermost_subset_entries
  rw [h] at hsub
  exact List.subset_nil.mp hsub

theorem XmlPrefix.innermost_subset_entries (before : XmlPrefix) :
    before.innermost ⊆ before.entries := by
  intro entry hentry
  induction before with
  | nil => exact hentry
  | text rest ih => exact ih hentry
  | element name attributes children rest ih =>
      have helement :=
        @(XmlContent.element name attributes children .nil).innermost_subset_entries entry
      simp only [XmlContent.innermost, XmlContent.entries, List.append_nil] at helement
      simp only [innermost, entries] at hentry ⊢
      rcases List.mem_append.mp hentry with hself | hrest
      · exact List.mem_append_left _ (helement hself)
      · exact List.mem_append_right _ (ih hrest)
  | opened name attributes inside ih => exact ih hentry

/-- Every prefix of the events of a content is what some `XmlPrefix` stands for. -/
theorem exists_xmlPrefix {content : XmlContent} {events : List XmlEvent}
    (h : events <+: content.events) : ∃ before : XmlPrefix, before.events = events := by
  induction content generalizing events with
  | nil => exact ⟨.nil, (List.prefix_nil.mp h).symm⟩
  | text rest ih =>
      rcases List.prefix_cons_iff.mp h with rfl | ⟨events, rfl, hrest⟩
      · exact ⟨.nil, rfl⟩
      · obtain ⟨before, rfl⟩ := ih hrest
        exact ⟨.text before, rfl⟩
  | element name attributes children rest ihChildren ihRest =>
      rcases List.prefix_cons_iff.mp h with rfl | ⟨events, rfl, htail⟩
      · exact ⟨.nil, rfl⟩
      -- The events end before the end tag or behind it.
      rcases List.prefix_or_prefix_of_prefix htail (List.prefix_append children.events _) with
        hinside | ⟨later, rfl⟩
      · obtain ⟨inside, rfl⟩ := ihChildren hinside
        exact ⟨.opened name attributes inside, rfl⟩
      · rcases List.prefix_cons_iff.mp ((List.prefix_append_right_inj _).mp htail) with
          rfl | ⟨events, rfl, hrest⟩
        · obtain ⟨inside, hinside⟩ := ihChildren (List.prefix_refl children.events)
          exact ⟨.opened name attributes inside, by simp [XmlPrefix.events, hinside]⟩
        · obtain ⟨before, rfl⟩ := ihRest hrest
          exact ⟨.element name attributes children before, rfl⟩

/-! ## What the loop reads -/

/-- The three names differ, so the order of the comparisons makes no difference. -/
theorem setAttribute_eq (record : EccEntry) (name value : JavaString) :
    record.setAttribute ⟨name, value⟩ =
      ⟨if name = eccAttr then value else record.mEcc,
        if name = categoryAttr then value else record.mCategory,
        if name = conditionAttr then value else record.mCondition⟩ := by
  have hcategory : categoryAttr ≠ eccAttr := by decide
  have hcondition : conditionAttr ≠ eccAttr ∧ conditionAttr ≠ categoryAttr := by decide
  simp only [EccEntry.setAttribute]
  by_cases hecc : name = eccAttr
  · simp [hecc, hcategory.symm, hcondition.1.symm]
  · by_cases hname : name = categoryAttr
    · simp [hname, hcategory, hcondition.2.symm]
    · simp only [hecc, hname, if_false]
      split <;> rfl

/-- What a name gives in a list that starts with another attribute, or with its own. -/
theorem getD_dlookup_cons {name : JavaString} {rest : List (Σ _ : JavaString, JavaString)}
    (h : name ∉ rest.keys) (key value default : JavaString) :
    ((List.dlookup key (⟨name, value⟩ :: rest)).getD default) =
      (rest.dlookup key).getD (if name = key then value else default) := by
  by_cases hkey : name = key
  · subst hkey
    simp [List.dlookup_eq_none.mpr h]
  · rw [List.dlookup_cons_ne _ _ (Ne.symm hkey), if_neg hkey]

/-- With each name given once, the loop over the attributes is three lookups. -/
theorem foldl_setAttribute {entries : List (Σ _ : JavaString, JavaString)}
    (h : entries.NodupKeys) (record : EccEntry) :
    entries.foldl EccEntry.setAttribute record =
      ⟨(entries.dlookup eccAttr).getD record.mEcc,
        (entries.dlookup categoryAttr).getD record.mCategory,
        (entries.dlookup conditionAttr).getD record.mCondition⟩ := by
  induction entries generalizing record with
  | nil => rfl
  | cons head rest ih =>
      obtain ⟨name, value⟩ := head
      obtain ⟨hname, hrest⟩ := List.nodupKeys_cons.mp h
      rw [List.foldl_cons, ih hrest, setAttribute_eq]
      simp only [getD_dlookup_cons hname]

theorem ofAttributes_eq (attributes : XmlAttributes) :
    EccEntry.ofAttributes attributes = entryOf attributes :=
  foldl_setAttribute attributes.nodupKeys EccEntry.empty

@[simp] theorem parseEvents_nil (s : EccLoop) : parseEvents [] s = s := rfl

@[simp] theorem parseEvents_cons (event : XmlEvent) (events : List XmlEvent) (s : EccLoop) :
    parseEvents (event :: events) s = parseEvents events (handleEvent s event) := rfl

@[simp] theorem parseEvents_append (events later : List XmlEvent) (s : EccLoop) :
    parseEvents (events ++ later) s = parseEvents later (parseEvents events s) :=
  List.foldl_append

@[simp] theorem handleEvent_startDocument (s : EccLoop) : handleEvent s .startDocument = s := rfl

@[simp] theorem handleEvent_text (s : EccLoop) : handleEvent s .text = s := rfl

theorem handleEvent_startTag (s : EccLoop) (attributes : XmlAttributes) :
    handleEvent s (.startTag eccEntryTag attributes) =
      ⟨some (entryOf attributes), s.mCustomizedEccList⟩ := by
  simp [handleEvent, ofAttributes_eq]

theorem handleEvent_endTag (record : EccEntry) (list : List EccEntry) :
    handleEvent ⟨some record, list⟩ (.endTag eccEntryTag) = ⟨some record, list ++ [record]⟩ := by
  simp [handleEvent]

theorem handleEvent_startTag_of_ne {name : JavaString} (h : name ≠ eccEntryTag) (s : EccLoop)
    (attributes : XmlAttributes) : handleEvent s (.startTag name attributes) = s := by
  simp [handleEvent, h]

theorem handleEvent_endTag_of_ne {name : JavaString} (h : name ≠ eccEntryTag) (s : EccLoop) :
    handleEvent s (.endTag name) = s := by
  unfold handleEvent
  cases s.record with
  | none => rfl
  | some record => simp [h]

/-- A content without `EccEntry` elements leaves the locals as they are. -/
theorem parseEvents_of_entries_nil {content : XmlContent} (h : content.entries = [])
    (s : EccLoop) : parseEvents content.events s = s := by
  induction content with
  | nil => rfl
  | text rest ih => simpa [XmlContent.events] using ih h
  | element name attributes children rest ihChildren ihRest =>
      simp only [XmlContent.entries, List.append_eq_nil_iff] at h
      obtain ⟨⟨htag, hchildren⟩, hrest⟩ := h
      have hname : name ≠ eccEntryTag := fun h => by simp [h] at htag
      simp only [XmlContent.events, parseEvents_cons, parseEvents_append,
        handleEvent_startTag_of_ne hname, handleEvent_endTag_of_ne hname, ihChildren hchildren,
        ihRest hrest]

/-- Where no entry stands inside another the entries are added in document order. -/
theorem parseEvents_of_unnested {content : XmlContent} (h : content.Unnested) (s : EccLoop) :
    (parseEvents content.events s).mCustomizedEccList =
      s.mCustomizedEccList ++ content.entries := by
  induction content generalizing s with
  | nil => simp [XmlContent.events, XmlContent.entries]
  | text rest ih => simpa [XmlContent.events, XmlContent.entries] using ih h s
  | element name attributes children rest ihChildren ihRest =>
      obtain ⟨hinside, hchildren, hrest⟩ := h
      simp only [XmlContent.events, XmlContent.entries, parseEvents_cons, parseEvents_append]
      rw [ihRest hrest]
      by_cases hname : name = eccEntryTag
      · subst hname
        rw [handleEvent_startTag, parseEvents_of_entries_nil (hinside rfl), handleEvent_endTag]
        simp [hinside rfl]
      · rw [handleEvent_startTag_of_ne hname, handleEvent_endTag_of_ne hname,
          ihChildren hchildren]
        simp [hname]

@[simp] theorem handleEvent_endTag_record (s : EccLoop) (name : JavaString) :
    (handleEvent s (.endTag name)).record = s.record := by
  obtain ⟨record, list⟩ := s
  cases record with
  | none => rfl
  | some record =>
      simp only [handleEvent]
      split <;> rfl

/-- Behind a content with entries, `record` is that of an element with none inside. -/
theorem exists_record {content : XmlContent} (h : content.entries ≠ []) (s : EccLoop) :
    ∃ record ∈ content.innermost, (parseEvents content.events s).record = some record := by
  induction content generalizing s with
  | nil => exact absurd rfl h
  | text rest ih => simpa [XmlContent.events, XmlContent.innermost] using ih h s
  | element name attributes children rest ihChildren ihRest =>
      simp only [XmlContent.events, XmlContent.innermost, parseEvents_cons, parseEvents_append]
      by_cases hrest : rest.entries = []
      · rw [parseEvents_of_entries_nil hrest, handleEvent_endTag_record]
        by_cases hchildren : children.entries = []
        · have hname : name = eccEntryTag := by
            by_contra hname
            exact h (by simp [XmlContent.entries, hname, hchildren, hrest])
          subst hname
          rw [parseEvents_of_entries_nil hchildren, handleEvent_startTag]
          exact ⟨entryOf attributes, by simp [hchildren], rfl⟩
        · obtain ⟨record, hmem, hrecord⟩ :=
            ihChildren hchildren (handleEvent s (.startTag name attributes))
          exact ⟨record, by simp [hmem], hrecord⟩
      · obtain ⟨record, hmem, hrecord⟩ := ihRest hrest
          (handleEvent (parseEvents children.events (handleEvent s (.startTag name attributes)))
            (.endTag name))
        exact ⟨record, by simp [hmem], hrecord⟩

/-- The entries of the list behind a content: those before it and those of its elements
with no `EccEntry` inside.  An outer element adds the record of the last inner one again. -/
theorem mem_parseEvents (content : XmlContent) (s : EccLoop) (entry : EccEntry) :
    entry ∈ (parseEvents content.events s).mCustomizedEccList ↔
      entry ∈ s.mCustomizedEccList ∨ entry ∈ content.innermost := by
  induction content generalizing s with
  | nil => simp [XmlContent.events, XmlContent.innermost]
  | text rest ih => simpa [XmlContent.events, XmlContent.innermost] using ih s
  | element name attributes children rest ihChildren ihRest =>
      simp only [XmlContent.events, XmlContent.innermost, parseEvents_cons, parseEvents_append,
        ihRest, List.mem_append, ← or_assoc]
      refine or_congr_left ?_
      by_cases hname : name = eccEntryTag
      · subst hname
        rw [handleEvent_startTag]
        by_cases hchildren : children.entries = []
        · rw [parseEvents_of_entries_nil hchildren, handleEvent_endTag]
          simp [hchildren, XmlContent.innermost_eq_nil hchildren]
        · obtain ⟨record, hrecord, hlast⟩ :=
            exists_record hchildren ⟨some (entryOf attributes), s.mCustomizedEccList⟩
          have hmem := ihChildren ⟨some (entryOf attributes), s.mCustomizedEccList⟩
          generalize parseEvents children.events _ = inside at hlast hmem
          obtain ⟨last, list⟩ := inside
          obtain rfl : last = some record := hlast
          rw [handleEvent_endTag]
          simp only [hchildren, and_false, if_false, List.mem_append, List.mem_singleton,
            List.not_mem_nil, or_false, hmem]
          constructor
          · rintro (hbefore | rfl)
            · exact hbefore
            · exact .inr hrecord
          · exact .inl
      · rw [handleEvent_startTag_of_ne hname, handleEvent_endTag_of_ne hname, ihChildren]
        simp [hname]

/-- The same for what was read before the parser threw. -/
theorem mem_parseEvents_prefix (before : XmlPrefix) (s : EccLoop) (entry : EccEntry) :
    entry ∈ (parseEvents before.events s).mCustomizedEccList ↔
      entry ∈ s.mCustomizedEccList ∨ entry ∈ before.innermost := by
  induction before generalizing s with
  | nil => simp [XmlPrefix.events, XmlPrefix.innermost]
  | text rest ih => simpa [XmlPrefix.events, XmlPrefix.innermost] using ih s
  | element name attributes children rest ih =>
      have helement := mem_parseEvents (.element name attributes children .nil) s entry
      simp only [XmlContent.events, XmlContent.innermost, parseEvents_cons, parseEvents_append,
        parseEvents_nil, List.append_nil] at helement
      simp only [XmlPrefix.events, XmlPrefix.innermost, parseEvents_cons, parseEvents_append, ih,
        helement, List.mem_append, or_assoc]
  | opened name attributes inside ih =>
      simp only [XmlPrefix.events, XmlPrefix.innermost, parseEvents_cons, ih]
      refine or_congr_left ?_
      by_cases hname : name = eccEntryTag
      · subst hname
        rw [handleEvent_startTag]
      · rw [handleEvent_startTag_of_ne hname]

/-! ## What entering a number does -/

/-- `entry` takes the place of the first entry with its number, or stands behind the
list where there is none. -/
inductive PutFirst (entry : EccEntry) : List EccEntry → List EccEntry → Prop where
  | replaced {front back : List EccEntry} {old : EccEntry}
      (hfront : ∀ e ∈ front, e.mEcc ≠ entry.mEcc) (hold : old.mEcc = entry.mEcc) :
      PutFirst entry (front ++ old :: back) (front ++ entry :: back)
  | appended {list : List EccEntry} (hlist : ∀ e ∈ list, e.mEcc ≠ entry.mEcc) :
      PutFirst entry list (list ++ [entry])

/-- The numbers are entered one after the other. -/
def PutAll : List JavaString → List EccEntry → List EccEntry → Prop
  | [], list, list' => list' = list
  | number :: numbers, list, list' =>
      ∃ next, PutFirst (ctaEntry number) list next ∧ PutAll numbers next list'

theorem searchEcc_append {number : JavaString} {front : List EccEntry}
    (h : ∀ e ∈ front, e.mEcc ≠ number) (back : List EccEntry) (nIndex : Nat) :
    searchEcc number (front ++ back) nIndex = searchEcc number back (nIndex + front.length) := by
  induction front generalizing nIndex with
  | nil => rfl
  | cons head rest ih =>
      obtain ⟨hhead, hrest⟩ := List.forall_mem_cons.mp h
      rw [List.cons_append, searchEcc, if_neg hhead, ih hrest, List.length_cons,
        Nat.add_right_comm, Nat.add_assoc]

/-- A list has a first entry with a given number, or none. -/
theorem exists_first_or_forall_ne (number : JavaString) (list : List EccEntry) :
    (∃ front old back, list = front ++ old :: back ∧ (∀ e ∈ front, e.mEcc ≠ number) ∧
      old.mEcc = number) ∨ ∀ e ∈ list, e.mEcc ≠ number := by
  induction list with
  | nil => exact .inr (by simp)
  | cons head rest ih =>
      by_cases hhead : head.mEcc = number
      · exact .inl ⟨[], head, rest, rfl, by simp, hhead⟩
      · rcases ih with ⟨front, old, back, rfl, hfront, hold⟩ | hrest
        · exact .inl ⟨head :: front, old, back, rfl,
            List.forall_mem_cons.mpr ⟨hhead, hfront⟩, hold⟩
        · exact .inr (List.forall_mem_cons.mpr ⟨hhead, hrest⟩)

theorem putCtaEntry_putFirst (list : List EccEntry) (number : JavaString) :
    PutFirst (ctaEntry number) list (putCtaEntry list number) := by
  rcases exists_first_or_forall_ne number list with ⟨front, old, back, rfl, hfront, hold⟩ | hlist
  · have hsearch : searchEcc number (front ++ old :: back) 0 = (true, front.length) := by
      rw [searchEcc_append hfront, searchEcc, if_pos hold, Nat.zero_add]
    have hput : PutFirst (ctaEntry number) (front ++ old :: back)
        (front ++ ctaEntry number :: back) := .replaced hfront hold
    simpa [putCtaEntry, hsearch] using hput
  · have hsearch : searchEcc number list 0 = (false, list.length) := by
      simpa [searchEcc] using searchEcc_append hlist [] 0
    simpa [putCtaEntry, hsearch] using PutFirst.appended hlist

theorem foldl_putCtaEntry (numbers : List JavaString) (list : List EccEntry) :
    PutAll numbers list (numbers.foldl putCtaEntry list) := by
  induction numbers generalizing list with
  | nil => rfl
  | cons number numbers ih =>
      exact ⟨_, putCtaEntry_putFirst list number, ih (putCtaEntry list number)⟩

theorem PutFirst.mem {entry : EccEntry} {list list' : List EccEntry}
    (h : PutFirst entry list list') : entry ∈ list' := by
  cases h <;> simp

/-- The entries with other numbers stay. -/
theorem PutFirst.mem_of_ne {entry e : EccEntry} {list list' : List EccEntry}
    (h : PutFirst entry list list') (hmem : e ∈ list) (hne : e.mEcc ≠ entry.mEcc) :
    e ∈ list' := by
  cases h with
  | replaced hfront hold =>
      simp only [List.mem_append, List.mem_cons] at hmem ⊢
      rcases hmem with hfront | rfl | hback
      · exact .inl hfront
      · exact absurd hold hne
      · exact .inr (.inr hback)
  | appended hlist => exact List.mem_append_left _ hmem

/-- Each number that was entered, or had its entry before, has it behind the last one. -/
theorem PutAll.mem {numbers : List JavaString} {list list' : List EccEntry}
    (h : PutAll numbers list list') {number : JavaString}
    (hnumber : number ∈ numbers ∨ ctaEntry number ∈ list) : ctaEntry number ∈ list' := by
  induction numbers generalizing list with
  | nil =>
      obtain rfl : list' = list := h
      simpa using hnumber
  | cons first numbers ih =>
      obtain ⟨next, hfirst, hnext⟩ := h
      refine ih hnext ?_
      by_cases heq : number = first
      · exact .inr (heq ▸ hfirst.mem)
      · rcases hnumber with hmem | hmem
        · exact .inl (List.mem_of_ne_of_mem heq hmem)
        · exact .inr (hfirst.mem_of_ne hmem heq)

/-! ## `parseEccList` -/

/-- A table with 110 listed twice and a foreign element between the two. -/
def repeatedNumberTable : XmlContent :=
  .element "EccTable".toList ∅
    (.text (.element eccEntryTag ((∅ : XmlAttributes).insert eccAttr "110".toList) .nil
      (.element "Note".toList ((∅ : XmlAttributes).insert eccAttr "119".toList) .nil
        (.element eccEntryTag
          (((∅ : XmlAttributes).insert eccAttr "110".toList).insert conditionAttr eccAlways) .nil
          .nil))))
    .nil

theorem repeatedNumberTable_unnested : repeatedNumberTable.Unnested :=
  ⟨fun h => absurd h (by decide),
    ⟨fun _ => rfl, trivial, fun _ => rfl, trivial, fun _ => rfl, trivial, trivial⟩, trivial⟩

/-- The file was not read to its end and closed. -/
def EccFile.Fails : EccFile → Prop
  | .read _ closes => closes = false
  | _ => True

/-- The `EccEntry` elements completed before the failure, if there is one. -/
def EccFile.completed : EccFile → List EccEntry
  | .noParser => []
  | .notOpened => []
  | .broken before => before.entries
  | .read content _ => content.entries

/-- Those of them with no `EccEntry` inside. -/
def EccFile.innermost : EccFile → List EccEntry
  | .noParser => []
  | .notOpened => []
  | .broken before => before.innermost
  | .read content _ => content.innermost

theorem EccFile.innermost_subset_completed (file : EccFile) :
    file.innermost ⊆ file.completed := by
  cases file with
  | noParser => exact List.Subset.refl []
  | notOpened => exact List.Subset.refl []
  | broken before => exact before.innermost_subset_entries
  | read content closes => exact content.innermost_subset_entries

/-- Each of the numbers for CTA is listed as one to be shown. -/
def CtaListed (list : List EccEntry) : Prop :=
  ∀ number ∈ emergencyCTAList, ∃ entry ∈ list, entry.mEcc = number ∧ entry.mCondition = eccForMmi

theorem CtaListed.mono {list list' : List EccEntry} (h : CtaListed list) (hsub : list ⊆ list') :
    CtaListed list' := by
  intro number hnumber
  obtain ⟨entry, hentry, hfields⟩ := h number hnumber
  exact ⟨entry, hsub hentry, hfields⟩

/-- Behind a failure the list holds the innermost elements read, and nothing else. -/
theorem mem_parseEccList_of_fails {file : EccFile} (h : file.Fails) (sIsCtaSet : Bool)
    (L : MtkEccList) (entry : EccEntry) :
    entry ∈ (parseEccList sIsCtaSet file L).mCustomizedEccList ↔ entry ∈ file.innermost := by
  cases file with
  | noParser => exact Iff.rfl
  | notOpened => exact Iff.rfl
  | broken before => simp [parseEccList, EccFile.innermost, mem_parseEvents_prefix]
  | read content closes =>
      obtain rfl : closes = false := h
      simp [parseEccList, EccFile.innermost, mem_parseEvents]

theorem ctaListed_of_read (content : XmlContent) (L : MtkEccList) :
    CtaListed (parseEccList true (.read content true) L).mCustomizedEccList := by
  intro number hnumber
  exact ⟨ctaEntry number, (foldl_putCtaEntry emergencyCTAList _).mem (.inl hnumber), rfl, rfl⟩

/-- The numbers for CTA and what was read of the file are in the list exactly where nothing
failed, or the elements read hold the numbers themselves and no outer one is lost. -/
theorem parseEccList_keeps_iff (file : EccFile) (L : MtkEccList) :
    let list := (parseEccList true file L).mCustomizedEccList
    (CtaListed list ∧ (file.Fails → file.completed ⊆ list)) ↔
      (file.Fails → CtaListed file.completed ∧ file.completed ⊆ file.innermost) := by
  intro list
  by_cases hfails : file.Fails
  · have hmem : ∀ entry, entry ∈ list ↔ entry ∈ file.innermost :=
      mem_parseEccList_of_fails hfails true L
    have hlist : list ⊆ file.innermost := fun entry => (hmem entry).mp
    have hinner : file.innermost ⊆ list := fun entry => (hmem entry).mpr
    constructor
    · rintro ⟨hcta, hkept⟩ -
      exact ⟨hcta.mono (List.Subset.trans hlist file.innermost_subset_completed),
        List.Subset.trans (hkept hfails) hlist⟩
    · intro h
      obtain ⟨hcta, hkept⟩ := h hfails
      have hcompleted : file.completed ⊆ list := List.Subset.trans hkept hinner
      exact ⟨hcta.mono hcompleted, fun _ => hcompleted⟩
  · refine ⟨fun _ h => absurd h hfails, fun _ => ⟨?_, fun h => absurd h hfails⟩⟩
    cases file with
    | read content closes =>
        obtain rfl : closes = true := by simpa [EccFile.Fails] using hfails
        exact ctaListed_of_read content L
    | noParser => exact absurd trivial hfails
    | notOpened => exact absurd trivial hfails
    | broken before => exact absurd trivial hfails

/-- A file that cannot be opened leaves the list empty. -/
theorem parseEccList_notOpened :
    ¬ ∀ (file : EccFile) (L : MtkEccList),
      CtaListed (parseEccList true file L).mCustomizedEccList ∧
        (file.Fails → file.completed ⊆ (parseEccList true file L).mCustomizedEccList) := by
  intro h
  obtain ⟨entry, hentry, -⟩ :=
    (h .notOpened ⟨eccTable, ∅⟩).1 "120".toList (by simp [emergencyCTAList])
  exact List.not_mem_nil hentry

end MediatekCommon.Ril
