import UblkAzblob.Construction.PageList
import UblkAzblob.Proof.BudgetFile

namespace UblkAzblob
open Storage Markup

section Grammar

def pageListTag : TagName := ⟨"PageList".toList, by decide⟩

def pageRangeTag : TagName := ⟨"PageRange".toList, by decide⟩

def clearRangeTag : TagName := ⟨"ClearRange".toList, by decide⟩

def startTag : TagName := ⟨"Start".toList, by decide⟩

def endTag : TagName := ⟨"End".toList, by decide⟩

def nextMarkerTag : TagName := ⟨"NextMarker".toList, by decide⟩

/-- An element without children. -/
def leaf (name : TagName) (content : PlainText) : List Markup := [.tag name, .text content, .tag name.close]

def optionalLeaf (name : TagName) (content : Option PlainText) : List Markup :=
  (content.map (leaf name)).getD []

/-- A page range or a clear range, with the text around its parts; either number may be missing. -/
structure RangeItem where
  clear : Bool
  lead : PlainText
  beforeStart : PlainText
  start : Option PlainText
  beforeEnd : PlainText
  stop : Option PlainText
  beforeClose : PlainText

namespace RangeItem

def tagName (item : RangeItem) : TagName := if item.clear then clearRangeTag else pageRangeTag

def inner (item : RangeItem) : List Markup :=
  .text item.beforeStart :: optionalLeaf startTag item.start ++
    .text item.beforeEnd :: optionalLeaf endTag item.stop ++ [.text item.beforeClose]

def pieces (item : RangeItem) : List Markup :=
  .text item.lead :: .tag item.tagName :: item.inner ++ [.tag item.tagName.close]

/-- The unsigned 64-bit number of an element, if it is there and is one. -/
def number? (content : Option PlainText) : Option Nat :=
  content.bind fun content => parseUnsigned (2 ^ 64) (trimBoth FileCacheBackend.isWhitespace content.chars)

def range? (item : RangeItem) : Option (Nat × Nat) :=
  match number? item.start, number? item.stop with
  | some start, some stop => if stop < start then none else some (start, (stop - start + 1) % 2 ^ 64)
  | _, _ => none

end RangeItem

/-- The continuation of a body: no element, an empty element in one tag, or an element with a token. -/
inductive Marker where
  | absent
  | selfClosed (name : TagName) (form : name.chars = "NextMarker".toList ++ ['/'] ∨ name.chars = "NextMarker".toList ++ [' ', '/'])
  | token (content : PlainText)

namespace Marker

def pieces : Marker → List Markup
  | .absent => []
  | .selfClosed name _ => [.tag name]
  | .token content => leaf nextMarkerTag content

/-- The marker of the next query. -/
def next : Marker → Option (List Char)
  | .token content =>
      let marker := trimBoth FileCacheBackend.isWhitespace content.chars
      if marker = [] then none else some marker
  | _ => none

end Marker

/-- What stands in front of the root element: declarations and text. -/
structure Prologue where
  pieces : List Markup
  declares : ∀ name, .tag name ∈ pieces → name.chars.head? = some '?' ∨ name.chars.head? = some '!'

/-- A whole body of the service. -/
structure PageListBody where
  prologue : Prologue
  items : List RangeItem
  beforeMarker : PlainText
  marker : Marker
  beforeClose : PlainText
  trailer : PlainText

namespace PageListBody

def opening (prologue : Prologue) (items : List RangeItem) : List Markup :=
  prologue.pieces ++ .tag pageListTag :: items.flatMap RangeItem.pieces

def closing (body : PageListBody) : List Markup := [.text body.beforeClose, .tag pageListTag.close, .text body.trailer]

def text (body : PageListBody) : List Char :=
  renderAll (opening body.prologue body.items ++ .text body.beforeMarker :: body.marker.pieces ++ body.closing)

end PageListBody

/-- A body that was cut off behind the opening tag of its last page range. -/
structure CutBody where
  prologue : Prologue
  items : List RangeItem
  last : RangeItem
  kept : List Char
  lost : List Char
  whole : kept ++ lost = renderAll last.inner ++ tagText pageRangeTag.close.chars
  cut : lost ≠ []

def CutBody.text (body : CutBody) : List Char :=
  renderAll (PageListBody.opening body.prologue body.items ++ [.text body.last.lead, .tag pageRangeTag]) ++ body.kept

end Grammar

section Numbers

open RangeItem

/-- A number of an element is found behind pieces without its tag. -/
theorem extractTagU64_leaf {name : TagName} {tag : String} {front back : List Markup} {content : Option PlainText}
    (named : tag.toList = name.chars) (before : Lacks name.chars front) (after : Lacks name.chars back) :
    (extractTagU64 (renderAll (front ++ (optionalLeaf name content ++ back))) tag).toOption = number? content := by
  have opened : (s!"<{tag}>").toList = tagText name.chars := by
    change ("<" ++ tag ++ ">").toList = _
    simp [tagText, named]
  have closed : (s!"</{tag}>").toList = tagText name.close.chars := by
    change ("</" ++ tag ++ ">").toList = _
    simp [tagText, TagName.close, named]
  unfold extractTagU64
  rw [opened, closed]
  cases content with
  | none =>
      rw [optionalLeaf, Option.map_none, Option.getD_none, List.nil_append,
        cutAt_absent name.plain.2 (lacks_append.mpr ⟨before, after⟩)]
      rfl
  | some content =>
      have found : cutAt (tagText name.chars) (renderAll (front ++ (optionalLeaf name (some content) ++ back))) =
          some (renderAll front, content.chars ++ (tagText name.close.chars ++ renderAll back)) := by
        rw [← cutAt_found name.plain.2 before]
        simp [optionalLeaf, leaf, render]
      have ended : cutAt (tagText name.close.chars) (content.chars ++ (tagText name.close.chars ++ renderAll back)) =
          some (content.chars, renderAll back) := by
        rw [cutAt_plain content.plain, cutAt_pattern]
        simp [prepend]
      rw [found]
      dsimp only
      rw [ended]
      dsimp only
      rw [number?, Option.bind_some]
      cases parseUnsigned (2 ^ 64) (trimBoth FileCacheBackend.isWhitespace content.chars) <;> rfl

/-- The parts of a leaf lack every tag but its own two. -/
theorem lacks_optionalLeaf {name : TagName} {other : List Char} (content : Option PlainText)
    (opening : name.chars ≠ other) (closing : name.close.chars ≠ other) : Lacks other (optionalLeaf name content) := by
  cases content with
  | none => simp [optionalLeaf]
  | some content => simp [optionalLeaf, leaf, opening, closing]

/-- An element is parsed exactly when it has both numbers in order. -/
theorem parsePageRange_inner (item : RangeItem) : (parsePageRange (renderAll item.inner)).toOption = item.range? := by
  have startShape : item.inner = [.text item.beforeStart] ++ (optionalLeaf startTag item.start ++
      (.text item.beforeEnd :: optionalLeaf endTag item.stop ++ [.text item.beforeClose])) := by
    simp [RangeItem.inner]
  have endShape : item.inner = (.text item.beforeStart :: optionalLeaf startTag item.start ++
      [.text item.beforeEnd]) ++ (optionalLeaf endTag item.stop ++ [.text item.beforeClose]) := by
    simp [RangeItem.inner]
  have start : (extractTagU64 (renderAll item.inner) "Start").toOption = number? item.start := by
    rw [startShape]
    refine extractTagU64_leaf rfl (by simp) ?_
    have lacks := lacks_optionalLeaf item.stop (by decide : endTag.chars ≠ startTag.chars) (by decide)
    simp [lacks]
  have stop : (extractTagU64 (renderAll item.inner) "End").toOption = number? item.stop := by
    rw [endShape]
    refine extractTagU64_leaf rfl ?_ (by simp)
    have lacks := lacks_optionalLeaf item.start (by decide : startTag.chars ≠ endTag.chars) (by decide)
    simp [lacks]
  rw [range?, ← start, ← stop, parsePageRange]
  cases extractTagU64 (renderAll item.inner) "Start" with
  | error error => rfl
  | ok first =>
      cases extractTagU64 (renderAll item.inner) "End" with
      | error error => rfl
      | ok last =>
          by_cases order : last < first
          · simp [Except.toOption, order]
          · simp [Except.toOption, order]

/-- A number with white space around it is read. -/
theorem number?_padded {content : PlainText} {value : Nat} {front back : List Char} (small : value < 2 ^ 64)
    (shape : content.chars = front ++ decimal value ++ back)
    (before : ∀ char ∈ front, FileCacheBackend.isWhitespace char = true)
    (after : ∀ char ∈ back, FileCacheBackend.isWhitespace char = true) : number? (some content) = some value := by
  rw [number?, Option.bind_some, shape, trimBoth_padded before after (decimal_ne_nil value), parseUnsigned_decimal small]
  intro char member
  exact CacheBudget.isWhitespace_of_isDigit (isDigit_of_mem_decimal member)

end Numbers

section Scan

/-- The scan of a body, from some point of it on. -/
def scanFrom (scan : RangeScan) : Except Error (List (Nat × Nat)) :=
  (Action.repeatUntil (fun scan => scan.rest.length) scanRound scan).1

theorem scanRound_shrinks (scan after : RangeScan) (round : scanRound scan = (.ok none, after)) :
    after.rest.length < scan.rest.length := by
  unfold scanRound at round
  split at round
  · cases (Prod.mk.inj round).1
  · rename_i front opened openCut
    split at round
    · cases (Prod.mk.inj round).1
    · rename_i segment rest closeCut
      split at round
      · cases (Prod.mk.inj round).1
      · rename_i range parsed
        rw [← (Prod.mk.inj round).2]
        have outer := congrArg List.length (cutAt_sound openCut)
        have inner := congrArg List.length (cutAt_sound closeCut)
        simp only [List.length_append] at outer inner
        have wide : "<PageRange>".toList.length = 11 := by decide
        dsimp only
        omega

/-- A body without another page range has been read. -/
theorem scanFrom_done {rest : List Char} {ranges : List (Nat × Nat)} (cut : cutAt "<PageRange>".toList rest = none) :
    scanFrom ⟨rest, ranges⟩ = .ok (sortRanges ranges) := by
  have round : scanRound ⟨rest, ranges⟩ = (.ok (some (sortRanges ranges)), ⟨rest, ranges⟩) := by
    rw [scanRound, cut]
  rw [scanFrom, Action.repeatUntil_some round]

theorem scanFrom_unterminated {rest front opened : List Char} {ranges : List (Nat × Nat)}
    (cut : cutAt "<PageRange>".toList rest = some (front, opened)) (close : cutAt "</PageRange>".toList opened = none) :
    scanFrom ⟨rest, ranges⟩ = .error ["unterminated <PageRange> element in Get Page Ranges response"] := by
  have round : scanRound ⟨rest, ranges⟩ =
      (.error ["unterminated <PageRange> element in Get Page Ranges response"], ⟨rest, ranges⟩) := by
    rw [scanRound, cut]
    dsimp only
    rw [close]
  rw [scanFrom, Action.repeatUntil_error round]

/-- A terminated page range is parsed, and the scan goes on behind it. -/
theorem scanFrom_element {rest front opened segment more : List Char} {ranges : List (Nat × Nat)}
    (cut : cutAt "<PageRange>".toList rest = some (front, opened))
    (close : cutAt "</PageRange>".toList opened = some (segment, more)) :
    scanFrom ⟨rest, ranges⟩ = (parsePageRange segment).bind fun range => scanFrom ⟨more, ranges ++ [range]⟩ := by
  cases parsed : parsePageRange segment with
  | error error =>
      have round : scanRound ⟨rest, ranges⟩ = (.error error, ⟨rest, ranges⟩) := by
        rw [scanRound, cut]
        dsimp only
        rw [close]
        dsimp only
        rw [parsed]
      rw [scanFrom, Action.repeatUntil_error round]
      rfl
  | ok range =>
      have round : scanRound ⟨rest, ranges⟩ = (.ok none, ⟨more, ranges ++ [range]⟩) := by
        rw [scanRound, cut]
        dsimp only
        rw [close]
        dsimp only
        rw [parsed]
      rw [scanFrom, Action.repeatUntil_none scanRound_shrinks round]
      rfl

/-- What stands in front of the next page range does not matter. -/
theorem scanFrom_skip {front rest : List Char} {ranges : List (Nat × Nat)}
    (skip : cutAt "<PageRange>".toList (front ++ rest) = (cutAt "<PageRange>".toList rest).map (prepend front)) :
    scanFrom ⟨front ++ rest, ranges⟩ = scanFrom ⟨rest, ranges⟩ := by
  cases cut : cutAt "<PageRange>".toList rest with
  | none =>
      rw [cut, Option.map_none] at skip
      rw [scanFrom_done skip, scanFrom_done cut]
  | some parts =>
      obtain ⟨before, opened⟩ := parts
      rw [cut, Option.map_some] at skip
      cases close : cutAt "</PageRange>".toList opened with
      | none => rw [scanFrom_unterminated skip close, scanFrom_unterminated cut close]
      | some parts => rw [scanFrom_element skip close, scanFrom_element cut close]

theorem openTag_eq : "<PageRange>".toList = tagText pageRangeTag.chars := rfl

theorem closeTag_eq : "</PageRange>".toList = tagText pageRangeTag.close.chars := rfl

/-- Pieces without a page range are passed over. -/
theorem scanFrom_lacks {pieces : List Markup} (lacks : Lacks pageRangeTag.chars pieces) (rest : List Char)
    (ranges : List (Nat × Nat)) : scanFrom ⟨renderAll pieces ++ rest, ranges⟩ = scanFrom ⟨rest, ranges⟩ := by
  apply scanFrom_skip
  rw [openTag_eq]
  exact cutAt_lacks pageRangeTag.plain.2 lacks rest

theorem lacks_inner (item : RangeItem) {name : List Char} (start : startTag.chars ≠ name)
    (startClose : startTag.close.chars ≠ name) (stop : endTag.chars ≠ name) (stopClose : endTag.close.chars ≠ name) :
    Lacks name item.inner := by
  have first := lacks_optionalLeaf item.start start startClose
  have second := lacks_optionalLeaf item.stop stop stopClose
  simp [RangeItem.inner, first, second]

/-- The ranges of the page elements, if each of them has one. -/
def rangesOf : List RangeItem → Option (List (Nat × Nat))
  | [] => some []
  | item :: rest =>
      if item.clear then rangesOf rest
      else item.range?.bind fun range => (rangesOf rest).map fun ranges => range :: ranges

/-- A clear range is passed over. -/
theorem scanFrom_clear {item : RangeItem} (clear : item.clear = true) (rest : List Char) (ranges : List (Nat × Nat)) :
    scanFrom ⟨renderAll item.pieces ++ rest, ranges⟩ = scanFrom ⟨rest, ranges⟩ := by
  apply scanFrom_lacks
  have inner := lacks_inner item (by decide : startTag.chars ≠ pageRangeTag.chars) (by decide) (by decide) (by decide)
  have named : item.tagName = clearRangeTag := by rw [RangeItem.tagName, if_pos clear]
  simp only [RangeItem.pieces, named, List.cons_append, lacks_cons, lacks_append, lacks_nil, differs_text, differs_tag]
  exact ⟨trivial, by decide, inner, by decide, trivial⟩

/-- A page range is parsed. -/
theorem scanFrom_page {item : RangeItem} (page : item.clear = false) (rest : List Char) (ranges : List (Nat × Nat)) :
    scanFrom ⟨renderAll item.pieces ++ rest, ranges⟩ =
      (parsePageRange (renderAll item.inner)).bind fun range => scanFrom ⟨rest, ranges ++ [range]⟩ := by
  have named : item.tagName = pageRangeTag := by
    rw [RangeItem.tagName, page, if_neg (by decide)]
  have inner := lacks_inner item (by decide : startTag.chars ≠ pageRangeTag.close.chars) (by decide) (by decide) (by decide)
  have shape : renderAll item.pieces ++ rest = renderAll [.text item.lead] ++ (tagText pageRangeTag.chars ++
      (renderAll item.inner ++ (tagText pageRangeTag.close.chars ++ rest))) := by
    simp [RangeItem.pieces, named, render]
  refine @scanFrom_element _ (renderAll [.text item.lead])
    (renderAll item.inner ++ (tagText pageRangeTag.close.chars ++ rest)) _ _ _ ?_ ?_
  · rw [shape, openTag_eq]
    exact cutAt_found pageRangeTag.plain.2 (by simp) _
  · rw [closeTag_eq]
    exact cutAt_found pageRangeTag.close.plain.2 inner _

/-- The elements give their ranges, or the scan fails. -/
theorem scanFrom_items (items : List RangeItem) (rest : List Char) (ranges : List (Nat × Nat)) :
    match rangesOf items with
    | some found =>
        scanFrom ⟨renderAll (items.flatMap RangeItem.pieces) ++ rest, ranges⟩ = scanFrom ⟨rest, ranges ++ found⟩
    | none => ∃ error, scanFrom ⟨renderAll (items.flatMap RangeItem.pieces) ++ rest, ranges⟩ = .error error := by
  induction items generalizing ranges with
  | nil => simp [rangesOf]
  | cons item items ih =>
      rw [List.flatMap_cons, renderAll_append, List.append_assoc]
      cases kind : item.clear with
      | true =>
          rw [scanFrom_clear kind, rangesOf, if_pos kind]
          exact ih ranges
      | false =>
          rw [scanFrom_page kind, rangesOf, if_neg (by simp [kind]), ← parsePageRange_inner]
          cases parsed : parsePageRange (renderAll item.inner) with
          | error error => exact ⟨error, rfl⟩
          | ok range =>
              have rest := ih (ranges ++ [range])
              cases found : rangesOf items with
              | none =>
                  rw [found] at rest
                  exact rest
              | some more =>
                  rw [found] at rest
                  simp only [List.append_assoc, List.singleton_append] at rest
                  exact rest

end Scan

section Bodies

theorem Prologue.lacks (prologue : Prologue) {name : List Char} (question : name.head? ≠ some '?')
    (exclamation : name.head? ≠ some '!') : Lacks name prologue.pieces := by
  intro piece member
  cases piece with
  | text content => trivial
  | tag other =>
      rintro rfl
      rcases prologue.declares other member with start | start
      · exact question start
      · exact exclamation start

/-- A body up to its marker is the prologue, the root tag and the elements. -/
theorem renderAll_opening (prologue : Prologue) (items : List RangeItem) :
    renderAll (PageListBody.opening prologue items) =
      renderAll (prologue.pieces ++ [.tag pageListTag]) ++ renderAll (items.flatMap RangeItem.pieces) := by
  simp [PageListBody.opening]

/-- The elements of a body give their ranges, or its scan fails. -/
theorem parsePageRanges_opening (prologue : Prologue) (items : List RangeItem) (rest : List Char) :
    match rangesOf items with
    | some found =>
        parsePageRanges (renderAll (PageListBody.opening prologue items) ++ rest) = scanFrom ⟨rest, found⟩
    | none => ∃ error, parsePageRanges (renderAll (PageListBody.opening prologue items) ++ rest) = .error error := by
  have lacks : Lacks pageRangeTag.chars (prologue.pieces ++ [.tag pageListTag]) := by
    have front := prologue.lacks (by decide : pageRangeTag.chars.head? ≠ some '?') (by decide)
    have root : pageListTag.chars ≠ pageRangeTag.chars := by decide
    simp [front, root]
  change match rangesOf items with
    | some found => scanFrom ⟨renderAll (PageListBody.opening prologue items) ++ rest, []⟩ = scanFrom ⟨rest, found⟩
    | none => ∃ error, scanFrom ⟨renderAll (PageListBody.opening prologue items) ++ rest, []⟩ = .error error
  rw [renderAll_opening, List.append_assoc, scanFrom_lacks lacks]
  exact scanFrom_items items rest []

theorem Marker.lacks_pageRange (marker : Marker) : Lacks pageRangeTag.chars marker.pieces := by
  cases marker with
  | absent => simp [pieces]
  | selfClosed name form =>
      have different : name.chars ≠ pageRangeTag.chars := by
        rcases form with form | form <;> rw [form] <;> decide
      simp [pieces, different]
  | token content =>
      have opening : nextMarkerTag.chars ≠ pageRangeTag.chars := by decide
      have closing : nextMarkerTag.close.chars ≠ pageRangeTag.chars := by decide
      simp [pieces, leaf, opening, closing]

/-- A whole body gives the ranges of its elements, or it fails. -/
theorem parsePageRanges_text (body : PageListBody) :
    match rangesOf body.items with
    | some found => parsePageRanges body.text = .ok (sortRanges found)
    | none => ∃ error, parsePageRanges body.text = .error error := by
  have shape : body.text = renderAll (PageListBody.opening body.prologue body.items) ++
      renderAll (.text body.beforeMarker :: body.marker.pieces ++ body.closing) := by
    rw [PageListBody.text, List.append_assoc, renderAll_append]
  have lacks : Lacks pageRangeTag.chars (.text body.beforeMarker :: body.marker.pieces ++ body.closing) := by
    have root : pageListTag.close.chars ≠ pageRangeTag.chars := by decide
    have marker := body.marker.lacks_pageRange
    simp [PageListBody.closing, marker, root]
  have scan := parsePageRanges_opening body.prologue body.items
    (renderAll (.text body.beforeMarker :: body.marker.pieces ++ body.closing))
  rw [shape]
  cases found : rangesOf body.items with
  | none =>
      rw [found] at scan
      exact scan
  | some ranges =>
      rw [found] at scan
      change parsePageRanges _ = _
      rw [scan]
      apply scanFrom_done
      rw [openTag_eq]
      exact cutAt_absent pageRangeTag.plain.2 lacks

/-- A body that was cut off inside its last page range fails. -/
theorem parsePageRanges_cut (body : CutBody) : ∃ error, parsePageRanges body.text = .error error := by
  have shape : body.text = renderAll (PageListBody.opening body.prologue body.items) ++
      (renderAll [.text body.last.lead] ++ (tagText pageRangeTag.chars ++ body.kept)) := by
    simp [CutBody.text, render]
  have scan := parsePageRanges_opening body.prologue body.items
    (renderAll [.text body.last.lead] ++ (tagText pageRangeTag.chars ++ body.kept))
  rw [shape]
  cases found : rangesOf body.items with
  | none =>
      rw [found] at scan
      exact scan
  | some ranges =>
      rw [found] at scan
      change parsePageRanges _ = _ at scan
      have cut := cutAt_found pageRangeTag.plain.2
        (by simp : Lacks pageRangeTag.chars [.text body.last.lead]) body.kept
      have inner := lacks_inner body.last (by decide : startTag.chars ≠ pageRangeTag.close.chars) (by decide)
        (by decide) (by decide)
      have whole : cutAt (tagText pageRangeTag.close.chars) (body.kept ++ body.lost) =
          some (renderAll body.last.inner, []) := by
        have ended := cutAt_found pageRangeTag.close.plain.2 inner []
        rwa [List.append_nil, ← body.whole] at ended
      exact ⟨_, scan.trans (scanFrom_unterminated cut (cutAt_short whole body.cut))⟩

theorem lacks_items {name : List Char} (items : List RangeItem) (start : startTag.chars ≠ name)
    (startClose : startTag.close.chars ≠ name) (stop : endTag.chars ≠ name) (stopClose : endTag.close.chars ≠ name)
    (page : pageRangeTag.chars ≠ name) (pageClose : pageRangeTag.close.chars ≠ name)
    (clear : clearRangeTag.chars ≠ name) (clearClose : clearRangeTag.close.chars ≠ name) :
    Lacks name (items.flatMap RangeItem.pieces) := by
  intro piece member
  obtain ⟨item, _, inside⟩ := List.mem_flatMap.mp member
  have own : item.tagName.chars ≠ name ∧ item.tagName.close.chars ≠ name := by
    rw [RangeItem.tagName]
    split
    · exact ⟨clear, clearClose⟩
    · exact ⟨page, pageClose⟩
  have inner := lacks_inner item start startClose stop stopClose
  have lacks : Lacks name item.pieces := by simp [RangeItem.pieces, own, inner]
  exact lacks piece inside

/-- The marker of a body is read. -/
theorem parseNextMarker_text (body : PageListBody) : parseNextMarker body.text = body.marker.next := by
  have openTag : "<NextMarker>".toList = tagText nextMarkerTag.chars := rfl
  have closeTag : "</NextMarker>".toList = tagText nextMarkerTag.close.chars := rfl
  have front : Lacks nextMarkerTag.chars (PageListBody.opening body.prologue body.items ++ [.text body.beforeMarker]) := by
    have prologue := body.prologue.lacks (by decide : nextMarkerTag.chars.head? ≠ some '?') (by decide)
    have items := lacks_items body.items (by decide : startTag.chars ≠ nextMarkerTag.chars) (by decide) (by decide)
      (by decide) (by decide) (by decide) (by decide) (by decide)
    have root : pageListTag.chars ≠ nextMarkerTag.chars := by decide
    simp [PageListBody.opening, prologue, items, root]
  have back : Lacks nextMarkerTag.chars body.closing := by
    have root : pageListTag.close.chars ≠ nextMarkerTag.chars := by decide
    simp [PageListBody.closing, root]
  have none' (marker : List Markup) (lacks : Lacks nextMarkerTag.chars marker) :
      cutAt (tagText nextMarkerTag.chars) (renderAll (PageListBody.opening body.prologue body.items ++
        .text body.beforeMarker :: marker ++ body.closing)) = none := by
    apply cutAt_absent nextMarkerTag.plain.2
    simp only [lacks_append, lacks_cons] at front ⊢
    exact ⟨⟨front.1, trivial, lacks⟩, back⟩
  rw [parseNextMarker, openTag, closeTag, PageListBody.text]
  cases body.marker with
  | absent => rw [Marker.pieces, none' [] (lacks_nil _)]; rfl
  | selfClosed name form =>
      have different : name.chars ≠ nextMarkerTag.chars := by
        rcases form with form | form <;> rw [form] <;> decide
      rw [Marker.pieces, none' [.tag name] (by simp [different])]
      rfl
  | token content =>
      have cut : cutAt (tagText nextMarkerTag.chars) (renderAll (PageListBody.opening body.prologue body.items ++
          .text body.beforeMarker :: leaf nextMarkerTag content ++ body.closing)) =
          some (renderAll (PageListBody.opening body.prologue body.items ++ [.text body.beforeMarker]),
            content.chars ++ (tagText nextMarkerTag.close.chars ++ renderAll body.closing)) := by
        rw [← cutAt_found nextMarkerTag.plain.2 front]
        simp [leaf, render]
      have closed : cutAt (tagText nextMarkerTag.close.chars)
          (content.chars ++ (tagText nextMarkerTag.close.chars ++ renderAll body.closing)) =
          some (content.chars, renderAll body.closing) := by
        rw [cutAt_plain content.plain, cutAt_pattern]
        simp [prepend]
      rw [Marker.pieces, cut, Option.bind_some, closed, Option.bind_some]
      rfl

end Bodies

section Lists

/-- The element holds this number with white space around it. -/
def ShowsNumber (content : Option PlainText) (value : Nat) : Prop :=
  ∃ text front back, content = some text ∧ text.chars = front ++ decimal value ++ back ∧
    (∀ char ∈ front, FileCacheBackend.isWhitespace char = true) ∧
      ∀ char ∈ back, FileCacheBackend.isWhitespace char = true

/-- The element shows this first and last byte. -/
structure RangeItem.Shows (item : RangeItem) (range : Nat × Nat) : Prop where
  start : ShowsNumber item.start range.1
  stop : ShowsNumber item.stop range.2

/-- The page ranges of the body are these, with clear ranges anywhere between them. -/
structure PageListBody.Lists (body : PageListBody) (ranges : List (Nat × Nat)) : Prop where
  shows : List.Forall₂ RangeItem.Shows (body.items.filter fun item => !item.clear) ranges
  proper : ∀ range ∈ ranges, range.1 ≤ range.2 ∧ range.2 < 2 ^ 63

/-- A page range is broken when a number is missing or is none, or when its end is before its start. -/
def RangeItem.Broken (item : RangeItem) : Prop :=
  RangeItem.number? item.start = none ∨ RangeItem.number? item.stop = none ∨
    ∃ start stop, RangeItem.number? item.start = some start ∧ RangeItem.number? item.stop = some stop ∧ stop < start

/-- The offsets and lengths of ranges that are given by their first and last bytes. -/
def offsetsAndLengths (ranges : List (Nat × Nat)) : List (Nat × Nat) :=
  ranges.map fun range => (range.1, range.2 - range.1 + 1)

theorem number?_shown {content : Option PlainText} {value : Nat} (small : value < 2 ^ 64)
    (shown : ShowsNumber content value) : RangeItem.number? content = some value := by
  obtain ⟨text, front, back, rfl, shape, before, after⟩ := shown
  exact number?_padded small shape before after

theorem RangeItem.Shows.range? {item : RangeItem} {range : Nat × Nat} (shows : item.Shows range)
    (ordered : range.1 ≤ range.2) (small : range.2 < 2 ^ 63) :
    item.range? = some (range.1, range.2 - range.1 + 1) := by
  rw [RangeItem.range?, number?_shown (by omega) shows.start, number?_shown (by omega) shows.stop]
  dsimp only
  rw [if_neg (by omega), Nat.mod_eq_of_lt (by omega)]

theorem RangeItem.Broken.range? {item : RangeItem} (broken : item.Broken) : item.range? = none := by
  rw [RangeItem.range?]
  rcases broken with missing | missing | ⟨start, stop, first, last, backwards⟩
  · rw [missing]
  · rw [missing]
    cases RangeItem.number? item.start <;> rfl
  · rw [first, last]
    exact if_pos backwards

theorem rangesOf_shown {items : List RangeItem} {ranges : List (Nat × Nat)}
    (shows : List.Forall₂ RangeItem.Shows (items.filter fun item => !item.clear) ranges)
    (proper : ∀ range ∈ ranges, range.1 ≤ range.2 ∧ range.2 < 2 ^ 63) :
    rangesOf items = some (offsetsAndLengths ranges) := by
  induction items generalizing ranges with
  | nil =>
      cases shows
      rfl
  | cons item items ih =>
      cases kind : item.clear with
      | true =>
          rw [List.filter_cons_of_neg (by simp [kind])] at shows
          rw [rangesOf, if_pos kind]
          exact ih shows proper
      | false =>
          rw [List.filter_cons_of_pos (by simp [kind])] at shows
          obtain ⟨range, rest, own, others, rfl⟩ := List.forall₂_cons_left_iff.mp shows
          obtain ⟨ordered, small⟩ := proper range List.mem_cons_self
          rw [rangesOf, if_neg (by simp [kind]), own.range? ordered small,
            ih others fun other member => proper other (List.mem_cons_of_mem _ member)]
          rfl

theorem rangesOf_broken {items : List RangeItem} {item : RangeItem} (member : item ∈ items)
    (page : item.clear = false) (broken : item.Broken) : rangesOf items = none := by
  induction items with
  | nil => cases member
  | cons first items ih =>
      rw [rangesOf]
      rcases List.mem_cons.mp member with rfl | later
      · rw [if_neg (by simp [page]), broken.range?]
        rfl
      · rw [ih later]
        cases first.clear with
        | true => rfl
        | false => cases first.range? <;> rfl

theorem parsePageRanges_lists {body : PageListBody} {ranges : List (Nat × Nat)} (lists : body.Lists ranges) :
    parsePageRanges body.text = .ok (sortRanges (offsetsAndLengths ranges)) := by
  have parsed := parsePageRanges_text body
  rw [rangesOf_shown lists.shows lists.proper] at parsed
  exact parsed

/-- A reply that a reader must not take for a shorter list. -/
inductive Spoiled : List Char → Prop where
  | broken (body : PageListBody) (item : RangeItem) (member : item ∈ body.items) (page : item.clear = false)
      (broken : item.Broken) : Spoiled body.text
  | cut (body : CutBody) : Spoiled body.text

theorem Spoiled.fails {text : List Char} (spoiled : Spoiled text) : ∃ error, parsePageRanges text = .error error := by
  cases spoiled with
  | broken body item member page broken =>
      have parsed := parsePageRanges_text body
      rw [rangesOf_broken member page broken] at parsed
      exact parsed
  | cut body => exact parsePageRanges_cut body

end Lists

section Listing

variable (client : PageListClient)

/-- The loop of the listing, from some point of it on. -/
def listFrom (calls : PageListCalls) : Except Error (List (Nat × Nat)) × PageListCalls :=
  Action.repeatUntil (fun calls => calls.answers.length) client.listRound calls

/-- A successful response with this body. -/
def answerOf (text : List Char) : Except Error PageListAnswer := .ok ⟨200, .ok text⟩

theorem listRound_shrinks (calls after : PageListCalls) (round : client.listRound calls = (.ok none, after)) :
    after.answers.length < calls.answers.length := by
  cases answers : calls.answers with
  | nil =>
      simp only [PageListClient.listRound, answers, List.head?_nil, Option.getD_none] at round
      cases (Prod.mk.inj round).1
  | cons answer rest =>
      simp only [PageListClient.listRound, answers, List.head?_cons, Option.getD_some, List.tail_cons] at round
      split at round
      · cases (Prod.mk.inj round).1
      · split at round
        · cases (Prod.mk.inj round).1
        · split at round
          · cases (Prod.mk.inj round).1
          · split at round
            · cases (Prod.mk.inj round).1
            · split at round
              · rw [← (Prod.mk.inj round).2, List.length_cons]
                exact Nat.lt_succ_self _
              · cases (Prod.mk.inj round).1

variable {client}

/-- A body with a marker is added, and the listing goes on with the marker. -/
theorem listFrom_next {calls : PageListCalls} {text marker : List Char} {rest : List (Except Error PageListAnswer)}
    {batch : List (Nat × Nat)} (answers : calls.answers = answerOf text :: rest)
    (parsed : parsePageRanges text = .ok batch) (continued : parseNextMarker text = some marker) :
    listFrom client calls = listFrom client ⟨rest, calls.sent ++ [client.query calls.marker],
      some (String.ofList marker), calls.ranges ++ batch⟩ := by
  have round : client.listRound calls = (.ok none, ⟨rest, calls.sent ++ [client.query calls.marker],
      some (String.ofList marker), calls.ranges ++ batch⟩) := by
    simp [PageListClient.listRound, answers, answerOf, parsed, continued]
  rw [listFrom, Action.repeatUntil_none (listRound_shrinks client) round, listFrom]

theorem listFrom_last {calls : PageListCalls} {text : List Char} {rest : List (Except Error PageListAnswer)}
    {batch : List (Nat × Nat)} (answers : calls.answers = answerOf text :: rest)
    (parsed : parsePageRanges text = .ok batch) (ended : parseNextMarker text = none) :
    listFrom client calls = (.ok (sortRanges (calls.ranges ++ batch)),
      ⟨rest, calls.sent ++ [client.query calls.marker], calls.marker, calls.ranges ++ batch⟩) := by
  have round : client.listRound calls = (.ok (some (sortRanges (calls.ranges ++ batch))),
      ⟨rest, calls.sent ++ [client.query calls.marker], calls.marker, calls.ranges ++ batch⟩) := by
    simp [PageListClient.listRound, answers, answerOf, parsed, ended]
  rw [listFrom, Action.repeatUntil_some round]

theorem listFrom_error {calls : PageListCalls} {text : List Char} {rest : List (Except Error PageListAnswer)}
    (answers : calls.answers = answerOf text :: rest) (failed : ∃ error, parsePageRanges text = .error error) :
    ∃ error after, listFrom client calls = (.error error, after) := by
  obtain ⟨error, failed⟩ := failed
  have round : ∃ error after, client.listRound calls = (.error error, after) := by
    simp [PageListClient.listRound, answers, answerOf, failed]
  obtain ⟨error, after, round⟩ := round
  exact ⟨error, after, by rw [listFrom, Action.repeatUntil_error round]⟩

/-- Bodies that each name the next one are read one after the other. -/
theorem listFrom_pages {pages : List (PageListBody × List (Nat × Nat))} {last : PageListBody × List (Nat × Nat)}
    (lists : ∀ page ∈ pages ++ [last], page.1.Lists page.2) (continued : ∀ page ∈ pages, page.1.marker.next ≠ none)
    (ended : last.1.marker.next = none) {calls : PageListCalls} {rest : List (Except Error PageListAnswer)}
    (answers : calls.answers = (pages ++ [last]).map (fun page => answerOf page.1.text) ++ rest) :
    ∃ after, listFrom client calls = (.ok (sortRanges (calls.ranges ++
        (pages ++ [last]).flatMap fun page => sortRanges (offsetsAndLengths page.2))), after) ∧
      after.answers = rest ∧
      after.sent = calls.sent ++ (calls.marker :: pages.map fun page =>
        page.1.marker.next.map String.ofList).map client.query := by
  induction pages generalizing calls with
  | nil =>
      have parsed := parsePageRanges_lists (lists last (by simp))
      have first : calls.answers = answerOf last.1.text :: rest := by simpa using answers
      have marker : parseNextMarker last.1.text = none := by rw [parseNextMarker_text, ended]
      refine ⟨⟨rest, calls.sent ++ [client.query calls.marker], calls.marker,
        calls.ranges ++ sortRanges (offsetsAndLengths last.2)⟩, ?_, rfl, by simp⟩
      rw [listFrom_last first parsed marker]
      simp
  | cons page pages ih =>
      have parsed := parsePageRanges_lists (lists page (by simp))
      have first : calls.answers = answerOf page.1.text ::
          ((pages ++ [last]).map (fun page => answerOf page.1.text) ++ rest) := by simpa using answers
      obtain ⟨marker, named⟩ := Option.ne_none_iff_exists'.mp (continued page List.mem_cons_self)
      have next : parseNextMarker page.1.text = some marker := by rw [parseNextMarker_text, named]
      have start : (⟨(pages ++ [last]).map (fun page => answerOf page.1.text) ++ rest,
          calls.sent ++ [client.query calls.marker], some (String.ofList marker),
          calls.ranges ++ sortRanges (offsetsAndLengths page.2)⟩ : PageListCalls).answers =
            (pages ++ [last]).map (fun page => answerOf page.1.text) ++ rest := rfl
      obtain ⟨after, listed, left, sent⟩ := ih (fun other member => lists other (List.mem_cons_of_mem _ member))
        (fun other member => continued other (List.mem_cons_of_mem _ member)) start
      refine ⟨after, ?_, left, ?_⟩
      · rw [listFrom_next first parsed next, listed]
        simp
      · rw [sent]
        simp [named]

/-- A spoiled reply is reached through the markers before it, and the listing fails. -/
theorem listFrom_spoiled {before : List PageListBody} {text : List Char}
    (continued : ∀ body ∈ before, body.marker.next ≠ none) (spoiled : Spoiled text) {calls : PageListCalls}
    {rest : List (Except Error PageListAnswer)}
    (answers : calls.answers = before.map (fun body => answerOf body.text) ++ answerOf text :: rest) :
    ∃ error after, listFrom client calls = (.error error, after) := by
  induction before generalizing calls with
  | nil => exact listFrom_error answers spoiled.fails
  | cons body before ih =>
      have first : calls.answers = answerOf body.text ::
          (before.map (fun body => answerOf body.text) ++ answerOf text :: rest) := by simpa using answers
      cases parsed : parsePageRanges body.text with
      | error error => exact listFrom_error first ⟨error, parsed⟩
      | ok batch =>
          obtain ⟨marker, named⟩ := Option.ne_none_iff_exists'.mp (continued body List.mem_cons_self)
          have next : parseNextMarker body.text = some marker := by rw [parseNextMarker_text, named]
          rw [listFrom_next first parsed next]
          exact ih (fun other member => continued other (List.mem_cons_of_mem _ member)) rfl

end Listing

section Result

theorem sortRanges_perm (ranges : List (Nat × Nat)) : (sortRanges ranges).Perm ranges := List.perm_insertionSort _ ranges

theorem sortRanges_sorted (ranges : List (Nat × Nat)) :
    (sortRanges ranges).Pairwise fun first second => first.1 ≤ second.1 := by
  have total : Std.Total fun first second : Nat × Nat => first.1 ≤ second.1 :=
    ⟨fun first second => Nat.le_total first.1 second.1⟩
  have transitive : IsTrans (Nat × Nat) fun first second => first.1 ≤ second.1 :=
    ⟨fun _ _ _ => Nat.le_trans⟩
  exact List.pairwise_insertionSort _ ranges

theorem listPageRanges_attached {client : PageListClient} (attached : client.attached = true)
    (answers : List (Except Error PageListAnswer)) :
    client.listPageRanges ⟨answers, [], none, []⟩ =
      ((listFrom client ⟨answers, [], none, []⟩).1.map some, (listFrom client ⟨answers, [], none, []⟩).2) := by
  rw [PageListClient.listPageRanges, if_pos attached]
  rfl

/-- The listing of whole bodies is exactly their ranges in order, each marker is sent once and trimmed,
and a reply with a broken range, or that was cut off inside its last range, is an error. -/
theorem listPageRanges_exact (client : PageListClient) (attached : client.attached = true) :
    (∀ (pages : List (PageListBody × List (Nat × Nat))) (last : PageListBody × List (Nat × Nat)),
      (∀ page ∈ pages ++ [last], page.1.Lists page.2) → (∀ page ∈ pages, page.1.marker.next ≠ none) →
      last.1.marker.next = none →
      ∃ ranges after, client.listPageRanges ⟨(pages ++ [last]).map fun page => answerOf page.1.text, [], none, []⟩ =
          (.ok (some ranges), after) ∧
        ranges.Perm ((pages ++ [last]).flatMap fun page => offsetsAndLengths page.2) ∧
        ranges.Pairwise (fun first second => first.1 ≤ second.1) ∧
        after.sent = (none :: pages.map fun page => page.1.marker.next.map String.ofList).map client.query) ∧
    (∀ (before : List PageListBody) (text : List Char) (rest : List (Except Error PageListAnswer)),
      (∀ body ∈ before, body.marker.next ≠ none) → Spoiled text →
      ∃ error after, client.listPageRanges
        ⟨before.map (fun body => answerOf body.text) ++ answerOf text :: rest, [], none, []⟩ = (.error error, after)) := by
  constructor
  · intro pages last lists continued ended
    have answers : (⟨(pages ++ [last]).map fun page => answerOf page.1.text, [], none, []⟩ : PageListCalls).answers =
        (pages ++ [last]).map (fun page => answerOf page.1.text) ++ [] := (List.append_nil _).symm
    obtain ⟨after, listed, _, sent⟩ := listFrom_pages lists continued ended answers
    refine ⟨sortRanges ((pages ++ [last]).flatMap fun page => sortRanges (offsetsAndLengths page.2)), after,
      ?_, ?_, sortRanges_sorted _, sent⟩
    · rw [listPageRanges_attached attached, listed]
      rfl
    · refine (sortRanges_perm _).trans (List.Perm.flatMap_left _ ?_)
      intro page _
      exact sortRanges_perm _
  · intro before text rest continued spoiled
    have answers : (⟨before.map (fun body => answerOf body.text) ++ answerOf text :: rest, [], none, []⟩ :
        PageListCalls).answers = before.map (fun body => answerOf body.text) ++ answerOf text :: rest := rfl
    obtain ⟨error, after, failed⟩ := listFrom_spoiled continued spoiled answers
    refine ⟨error, after, ?_⟩
    rw [listPageRanges_attached attached, failed]
    rfl

/-- One range between the tags of a page range. -/
def plainItem (start stop : String) (startPlain : '<' ∉ start.toList) (stopPlain : '<' ∉ stop.toList) : RangeItem where
  clear := false
  lead := ⟨[], by decide⟩
  beforeStart := ⟨[], by decide⟩
  start := some ⟨start.toList, startPlain⟩
  beforeEnd := ⟨[], by decide⟩
  stop := some ⟨stop.toList, stopPlain⟩
  beforeClose := ⟨[], by decide⟩

def plainBody (items : List RangeItem) (marker : Marker) : PageListBody :=
  ⟨⟨[], by simp⟩, items, ⟨[], by decide⟩, marker, ⟨[], by decide⟩, ⟨[], by decide⟩⟩

theorem plainItem_shows {start stop : Nat} {startText stopText : String} (startPlain : '<' ∉ startText.toList)
    (stopPlain : '<' ∉ stopText.toList) (startDigits : startText.toList = decimal start)
    (stopDigits : stopText.toList = decimal stop) :
    (plainItem startText stopText startPlain stopPlain).Shows (start, stop) where
  start := ⟨_, [], [], rfl, by simp [startDigits], by simp, by simp⟩
  stop := ⟨_, [], [], rfl, by simp [stopDigits], by simp, by simp⟩

theorem plainBody_lists {items : List RangeItem} {marker : Marker} {ranges : List (Nat × Nat)}
    (pages : (items.filter fun item => !item.clear) = items) (shows : List.Forall₂ RangeItem.Shows items ranges)
    (proper : ∀ range ∈ ranges, range.1 ≤ range.2 ∧ range.2 < 2 ^ 63) : (plainBody items marker).Lists ranges := by
  refine ⟨?_, proper⟩
  rw [plainBody, pages]
  exact shows

/-- Two pages whose marker is padded with blanks are listed whole, and a range without a start is an error. -/
theorem listPageRanges_exact_pages :
    let client : PageListClient := ⟨"disk", none, true⟩
    let first := plainBody [plainItem "512" "1023" (by decide) (by decide)] (.token ⟨" next ".toList, by decide⟩)
    let last := plainBody [plainItem "0" "511" (by decide) (by decide)] .absent
    let broken := plainBody [{ plainItem "0" "511" (by decide) (by decide) with start := none }] .absent
    (∃ ranges after, client.listPageRanges ⟨[answerOf first.text, answerOf last.text], [], none, []⟩ =
        (.ok (some ranges), after) ∧ ranges.Perm [(512, 512), (0, 512)] ∧
      after.sent = [[("comp", "pagelist")], [("comp", "pagelist"), ("marker", "next")]]) ∧
    ∃ error after, client.listPageRanges ⟨[answerOf first.text, answerOf broken.text], [], none, []⟩ =
      (.error error, after) := by
  intro client first last broken
  have exact := listPageRanges_exact client rfl
  constructor
  · obtain ⟨ranges, after, listed, permuted, _, sent⟩ := exact.1 [(first, [(512, 1023)])] (last, [(0, 511)])
      (by
        intro page member
        rcases List.mem_cons.mp member with rfl | member
        · exact plainBody_lists rfl (.cons (plainItem_shows _ _ (by decide) (by decide)) .nil) (by simp)
        · rw [List.mem_singleton.mp member]
          exact plainBody_lists rfl (.cons (plainItem_shows _ _ (by decide) (by decide)) .nil) (by simp))
      (by
        intro page member
        rw [List.mem_singleton.mp member]
        decide)
      rfl
    exact ⟨ranges, after, listed, permuted, sent.trans (by decide +kernel)⟩
  · exact exact.2 [first] broken.text [] (by
      intro body member
      rw [List.mem_singleton.mp member]
      decide) (.broken broken _ List.mem_cons_self rfl (.inl rfl))

/-- A marker of white space only ends the listing early, and a body that was cut off inside the opening tag of
its last page range is taken for a whole one. -/
theorem listPageRanges_blank :
    let client : PageListClient := ⟨"disk", none, true⟩
    let item := plainItem "0" "511" (by decide) (by decide)
    let other := plainItem "512" "1023" (by decide) (by decide)
    let first := plainBody [item] (.token ⟨" ".toList, by decide⟩)
    let last := plainBody [other] .absent
    let cut := "<PageList><PageRange><Start>0</Start><End>511</End></PageRange><PageRa".toList
    first.Lists [(0, 511)] ∧ last.Lists [(512, 1023)] ∧
      (client.listPageRanges ⟨[answerOf first.text, answerOf last.text], [], none, []⟩).1 = .ok (some [(0, 512)]) ∧
      (∃ lost, cut ++ lost = (plainBody [item, other] .absent).text) ∧
      (client.listPageRanges ⟨[answerOf cut], [], none, []⟩).1 = .ok (some [(0, 512)]) := by
  intro client item other first last cut
  refine ⟨?_, ?_, by decide +kernel, ?_, by decide +kernel⟩
  · exact plainBody_lists rfl (.cons (plainItem_shows _ _ (by decide) (by decide)) .nil) (by simp)
  · exact plainBody_lists rfl (.cons (plainItem_shows _ _ (by decide) (by decide)) .nil) (by simp)
  · exact ⟨"nge><Start>512</Start><End>1023</End></PageRange></PageList>".toList, by decide +kernel⟩

end Result
end UblkAzblob
